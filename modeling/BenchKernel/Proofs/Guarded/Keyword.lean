import BenchKernel.Proofs.Guarded.Arguments

/-! # Keywords by position

The built-in keywords with the arguments of a marker, and the lines between two markers, taken by position. The checks
that a region has to pass before, of its length and of the numbers of its arguments, are what makes every position a
valid one. The bias of a POWER loop is counted down from a step that is known to be positive. -/

namespace BenchKernel.Guarded

/-! ### Regions -/

/-- A region with its marker lines, all the arguments of the opening one and the lines between them. -/
structure Parts where
  opening : String
  closing : String
  arguments : List String
  interior : List String

/-- Takes a region apart whose opening marker has `arity` arguments. -/
def partsOf (openTag closeTag : String) (arity : Nat) (lines : List String) : Guarded GrammarError Parts := do
  let opening := lines.head?.getD ""
  unless Marker.isTagged opening openTag do throw (.missingMarker openTag opening)
  let closing := lines.getLast?.getD ""
  unless 1 < lines.length && Marker.isTagged closing closeTag do throw (.missingMarker closeTag closing)
  let first ← arguments opening
  unless first.length = arity do throw (.argumentCount openTag arity first.length (Text.trimmed opening))
  let last ← arguments closing
  unless last.length = 1 do throw (.argumentCount closeTag 1 last.length (Text.trimmed closing))
  let label ← item first 0
  let closeLabel ← item last 0
  unless closeLabel = label do throw (.labelMismatch openTag label closeLabel)
  return ⟨opening, closing, first, ← slice lines 1 (← lower lines.length 1)⟩

/-- The same region, with the label among the arguments or apart. -/
def SameParts (extra : Nat) (parts : Parts) (region : Region) : Prop :=
  parts = ⟨region.opening, region.closing, region.label :: region.arguments, region.interior⟩ ∧
    region.arguments.length = extra

theorem slice_interior {ε : Type} {lines : List String} (h : 1 < lines.length) :
    (slice lines 1 (lines.length - 1) : Guarded ε (List String)) = pure lines.tail.dropLast := by
  have hparts := @slice_append ε String [lines.head?.getD ""] lines.tail.dropLast [lines.getLast?.getD ""]
  have hstop : [lines.head?.getD ""].length + lines.tail.dropLast.length = lines.length - 1 := by
    simp only [List.length_singleton, List.length_dropLast, List.length_tail]
    omega
  rwa [hstop, List.append_assoc, List.singleton_append, ← eq_first_interior_last h] at hparts

theorem agrees_partsOf (openTag closeTag : String) (extra : Nat) (lines : List String) :
    Agrees (SameParts extra) (partsOf openTag closeTag (extra + 1) lines)
      (Region.ofLines openTag closeTag extra lines) := by
  unfold partsOf Region.ofLines
  simp only [arguments_eq]
  split
  · split
    · rename_i hlength
      rw [Bool.and_eq_true, decide_eq_true_eq] at hlength
      refine (agrees_plain _).bind fun first first' _ hfirst => ?_
      subst hfirst
      cases first with
      | nil => exact agrees_throw _
      | cons label rest =>
        simp only [List.length_cons, Nat.add_right_cancel_iff]
        split
        · rename_i hextra
          refine (agrees_plain _).bind fun last last' _ hlast => ?_
          subst hlast
          match last with
          | [] => exact agrees_throw _
          | _ :: _ :: _ =>
            rw [if_neg (by simp)]
            exact agrees_throw _
          | [closeLabel] =>
            rw [if_pos List.length_singleton, item_eq rfl, pure_bind, item_eq rfl, pure_bind]
            dsimp only
            split
            · rw [lower_eq (by omega), pure_bind, slice_interior hlength.1, pure_bind]
              exact agrees_pure ⟨rfl, hextra⟩
            · exact agrees_throw _
        · exact agrees_throw _
    · exact agrees_throw _
  · exact agrees_throw _

/-! ### Loops -/

/-- The loop that the arguments of an opening marker describe. -/
def loopOf (arch : Arch) (arguments : List String) : Guarded GrammarError Loop := do
  let (counter, start) ← plain (Marker.binding Keyword.loopTag (← item arguments 1))
  let symbol ← item arguments 2
  match Direction.ofSymbol? symbol with
  | none => throw (.direction (Text.trimmed symbol))
  | some direction =>
    unless arch.supports direction do throw (.unsupportedDirection arch direction)
    let (limit, stop) ← plain (Marker.binding Keyword.loopTag (← item arguments 3))
    let label ← item arguments 0
    let step ← item arguments 4
    return { label, counter, start, limit, stop, direction, step }

theorem agrees_loopOf (arch : Arch) (label : String) {arguments : List String} (h : arguments.length = 4) :
    Agrees Eq (loopOf arch (label :: arguments)) (Keyword.readLoop arch label arguments) := by
  obtain ⟨first, symbol, second, step, rfl⟩ := List.length_eq_four.mp h
  rw [loopOf, Keyword.readLoop, item_eq rfl, pure_bind]
  refine (agrees_plain _).bind fun x y _ hxy => ?_
  subst hxy
  obtain ⟨counter, start⟩ := x
  simp only [item_eq (show [label, first, symbol, second, step][2]? = some symbol from rfl), pure_bind]
  cases Direction.ofSymbol? symbol with
  | none => exact agrees_throw _
  | some direction =>
    dsimp only
    split
    · rw [item_eq rfl, pure_bind]
      refine (agrees_plain _).bind fun x y _ hxy => ?_
      subst hxy
      obtain ⟨limit, stop⟩ := x
      dsimp only
      rw [item_eq rfl, pure_bind, item_eq rfl, pure_bind]
      exact agrees_pure rfl
    · exact agrees_throw _

/-! ### The lines before a loop -/

/-- What is added to the distance of a POWER loop before it is divided by a known step. -/
def bias (l : Loop) (step : Nat) : Guarded Fault Nat :=
  if l.direction.isInclusive then pure step else lower step 1

def divideBy (l : Loop) (step : Nat) : Guarded Fault (List Power.Op) := do
  let bias ← bias l step
  let biased := if bias = 0 then [] else [.addic Power.scratch Power.scratch (Int.ofNat bias)]
  if step = 1 then return biased
  match Power.exponent? step with
  | some k => return biased ++ [.sradi Power.scratch Power.scratch k]
  | none =>
    return biased ++ (← plain (Power.load l.limit l.step)) ++ [.divd Power.scratch Power.scratch l.limit] ++
      (← plain (Power.load l.limit l.stop))

def passes (l : Loop) : Guarded Fault (List Power.Op) := do
  match (← plain (Literal.value? l.step)).filter fun n => decide (1 ≤ n) && decide (n ≤ 32767) with
  | some n => divideBy l n.toNat
  | none => plain (Power.divideBySymbol l)

def powerHeader (l : Loop) : Guarded Fault (List Power.Op) := do
  let start ← plain (Power.load l.counter l.start)
  let stop ← plain (Power.load l.limit l.stop)
  let count ← passes l
  return start ++ stop ++ [Power.distance l] ++ count ++
    [.cmpdi Power.scratch 0, .ble (Power.afterLabel l.label), .mtctr Power.scratch, .align, .label l.label]

/-- The lines before a loop's body. -/
def loopPrologue (arch : Arch) (l : Loop) : Guarded Fault (List String) :=
  match arch.dialect? with
  | some dialect => pure ((Branching.header arch.isVector l).map dialect.write)
  | none => do return (← powerHeader l).map Power.Op.write

theorem agrees_divideBy (l : Loop) {step : Nat} (h : 1 ≤ step) :
    Agrees Eq (divideBy l step) (Power.divideBy l step) := by
  have hbias : bias l step = pure (if l.direction.isInclusive then step else step - 1) := by
    rw [bias, lower_eq h]
    split <;> rfl
  rw [divideBy, Power.divideBy, hbias, pure_bind]
  dsimp only
  split
  · exact agrees_pure rfl
  · cases Power.exponent? step with
    | some k => exact agrees_pure rfl
    | none =>
      refine (agrees_plain _).bind fun x y _ hxy => (agrees_plain _).bind fun x' y' _ hxy' => ?_
      subst hxy hxy'
      exact agrees_pure rfl

theorem agrees_passes (l : Loop) : Agrees Eq (passes l) (Power.passes l) := by
  refine (agrees_plain _).bind fun value value' _ hvalue => ?_
  subst hvalue
  cases hn : value.filter fun n => decide (1 ≤ n) && decide (n ≤ 32767) with
  | some n =>
    have hpos : 1 ≤ n := by
      have := (Option.filter_eq_some_iff.mp hn).2
      simp only [Bool.and_eq_true, decide_eq_true_eq] at this
      exact this.1
    exact agrees_divideBy l (by omega)
  | none => exact agrees_plain _

theorem agrees_powerHeader (l : Loop) : Agrees Eq (powerHeader l) (Power.header l) := by
  refine (agrees_plain _).bind fun start start' _ hstart => (agrees_plain _).bind fun stop stop' _ hstop =>
    (agrees_passes l).bind fun count count' _ hcount => ?_
  subst hstart hstop hcount
  exact agrees_pure rfl

theorem agrees_loopPrologue (arch : Arch) (l : Loop) : Agrees Eq (loopPrologue arch l) (arch.loopPrologue l) := by
  unfold loopPrologue Arch.loopPrologue
  cases arch.dialect? with
  | some dialect => exact agrees_pure rfl
  | none =>
    have hmap : (Power.header l).map (fun ops => ops.map Power.Op.write) =
        Power.header l >>= fun ops => pure (ops.map Power.Op.write) := by
      cases Power.header l <;> rfl
    dsimp only
    rw [hmap]
    refine (agrees_powerHeader l).bind fun ops ops' _ hops => ?_
    subst hops
    exact agrees_pure rfl

/-! ### Renderings -/

def renderLoop (ctx : Context) (lines : List String) : Guarded (Stop GrammarError) (List String) := do
  let parts ← reported (partsOf Keyword.loopTag Keyword.loopEndTag 5 lines)
  let l ← reported (loopOf ctx.arch parts.arguments)
  let header ← faulting (loopPrologue ctx.arch l)
  return [ctx.arch.comment (Text.trimmed parts.opening)] ++ header ++ parts.interior ++
    ctx.arch.loopEpilogue l ++ [ctx.arch.comment (Text.trimmed parts.closing)]

def renderBlock (ctx : Context) (lines : List String) : Guarded (Stop GrammarError) (List String) := do
  let parts ← reported (partsOf Keyword.blockTag Keyword.blockEndTag 1 lines)
  if parts.interior.isEmpty then throw (.error (.emptyBody Keyword.blockTag (← item parts.arguments 0)))
  return [ctx.arch.comment (Text.trimmed parts.opening)] ++ parts.interior ++
    [ctx.arch.comment (Text.trimmed parts.closing)]

theorem agrees_renderLoop (ctx : Context) (lines : List String) :
    Agrees Eq (renderLoop ctx lines) (Keyword.renderLoop ctx lines) := by
  unfold renderLoop Keyword.renderLoop
  refine (agrees_partsOf _ _ 4 lines).reported.bind fun parts region _ hparts => ?_
  obtain ⟨rfl, hextra⟩ := hparts
  refine (agrees_loopOf ctx.arch _ hextra).reported.bind fun l l' _ hl => ?_
  subst hl
  refine (agrees_loopPrologue ctx.arch l).faulting.bind fun header header' _ hheader => ?_
  subst hheader
  exact agrees_pure rfl

theorem agrees_renderBlock (ctx : Context) (lines : List String) :
    Agrees Eq (renderBlock ctx lines) (Keyword.renderBlock ctx lines) := by
  unfold renderBlock Keyword.renderBlock
  refine (agrees_partsOf _ _ 0 lines).reported.bind fun parts region _ hparts => ?_
  obtain ⟨rfl, -⟩ := hparts
  dsimp only
  split
  · rw [item_eq rfl, pure_bind]
    exact agrees_throw _
  · exact agrees_pure rfl

end BenchKernel.Guarded
