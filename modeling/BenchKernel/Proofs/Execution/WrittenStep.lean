import BenchKernel.Proofs.Execution.CountedLoop
import BenchKernel.Proofs.Substitution.Tokens

/-! # Steps that are written later

The step of a loop may be a token that a replacement table turns into a number. Then the loop is counted by code that
loads the step in full and divides by it. After the replacement this code is that of a loop with the number for its
step, counted in that way. So a loop makes the same passes with a token as with the number itself. -/

namespace BenchKernel

/-- The number that a loop register comes to by some steps. -/
def Direction.after (d : Direction) (start : Int) (step k : Nat) : Int :=
  if d.countsDown then start - k * step else start + k * step

/-- How far an end is from a start. -/
def Direction.apart (d : Direction) (start stop : Int) : Int := if d.countsDown then start - stop else stop - start

namespace Power
open Machine

/-! ### Loops and their numbers -/

/-- A loop on POWER from a start to an end by a step, in which no number overflows: not the start, not the end, not
    their distance and not the distance and one step more. -/
structure Spans (l : Loop) (start stop : Int) (step : Nat) : Prop where
  constant_start : Assembler.constant? l.start = some start
  constant_stop : Assembler.constant? l.stop = some stop
  order : l.direction.isOrder = true
  one_le_step : 1 ≤ step
  step_le : step ≤ 32767
  label : Assembler.isSymbol l.label = true
  counter : l.counter ∈ registers
  limit : l.limit ∈ registers
  counter_ne : l.counter ≠ scratch
  limit_ne : l.limit ≠ scratch
  distinct : l.counter ≠ l.limit
  start_fits : Fits 64 start
  stop_fits : Fits 64 stop
  apart_fits : Fits 64 (l.direction.apart start stop)
  farther_fits : Fits 64 (l.direction.apart start stop + step)

section Numbers
variable {l : Loop} {start stop : Int} {step : Nat} {text : String}

theorem Spans.values (h : Spans l start stop step) (htext : Assembler.constant? text = some (step : Int)) :
    Loop.startValue { l with step := text } = start ∧ Loop.stopValue { l with step := text } = stop ∧
      Loop.stepValue { l with step := text } = step := by
  simp [Loop.startValue, Loop.stopValue, Loop.stepValue, h.constant_start, h.constant_stop, htext]

theorem Spans.value_eq (h : Spans l start stop step) (htext : Assembler.constant? text = some (step : Int)) :
    Loop.value { l with step := text } = l.direction.after start step := by
  obtain ⟨hstart, -, hstep⟩ := h.values htext
  funext k
  rw [Loop.value, hstart, hstep, Direction.after]

theorem Spans.fitting (h : Spans l start stop step) (htext : Assembler.constant? text = some (step : Int)) :
    Fitting { l with step := text } := by
  obtain ⟨hstart, hstop, hstep⟩ := h.values htext
  have hpos := h.one_le_step
  have hle := h.step_le
  have hapart : Loop.distance { l with step := text } = l.direction.apart start stop := by
    rw [Loop.distance, hstart, hstop, Direction.apart]
  refine ⟨⟨by simp [h.constant_start], by simp [h.constant_stop], by simp [htext], by rw [hstep]; omega, h.order⟩,
    by rw [hstep]; omega, h.label, h.counter, h.limit, h.counter_ne, h.limit_ne, h.distinct, hstart ▸ h.start_fits,
    hstop ▸ h.stop_fits, hapart ▸ h.apart_fits, ?_⟩
  have hlow := h.apart_fits.1
  have hhigh := h.farther_fits.2
  rw [Loop.biased, hapart, hstep, bias]
  unfold Fits
  split <;> omega

end Numbers

/-! ### A step in the lines of a loop -/

/-- The characters between which the step stands in the lines of a loop. -/
def isBreak (c : Char) : Bool := c == ' ' || c == '-' || c == '@'

/-- No key of a table occurs in a text. -/
def Lacks (table : Table) (text : String) : Prop :=
  ∀ e ∈ table.entries, e.1 ≠ "" → ¬e.1.toList <:+: text.toList

theorem Lacks.of_part {table : Table} {text part : String} (h : Lacks table text) (hpart : part.toList <:+: text.toList) :
    Lacks table part :=
  fun e he hne hoccurs => h e he hne (hoccurs.trans hpart)

theorem Lacks.onLine {table : Table} {text : String} (h : Lacks table text) : table.onLine text = text :=
  Table.onLine_of_absent h

/-- A table turns the step of a loop, which is no number, into a number, and has no key in the rest of its lines. -/
structure GivesStep (table : Table) (l : Loop) (step : Nat) : Prop where
  symbol : Literal.value? l.step = .ok none
  ne : l.step ≠ ""
  number : table.get? l.step = some (toString step)
  lacksNumber : Lacks table (toString step)
  keys : ∀ e ∈ table.entries, e.1 ≠ "" → ∀ c ∈ e.1.toList, (!isBreak c) = true
  elsewhere : ∀ lines, Arch.ppc64.loopPrologue { l with step := "" } = .ok lines →
    ∀ line ∈ lines ++ Arch.ppc64.loopEpilogue { l with step := "" }, Lacks table line

section Tokens
variable {table : Table} {l : Loop} {step : Nat} {startValue stopValue : Option Int}

/-- The step is replaced behind one of the characters, in a line that has no other key. -/
theorem GivesStep.onLine_behind (h : GivesStep table l step) {mark before : String} {c : Char} (hmark : mark.toList = [c])
    (hc : isBreak c = true) (hline : Lacks table (before ++ mark ++ "")) :
    table.onLine (before ++ mark ++ l.step) = before ++ mark ++ toString step := by
  have hbefore : Lacks table before := hline.of_part ⟨[], mark.toList, by simp⟩
  have hstep : table.onLine l.step = toString step := Table.onLine_of_get? h.ne h.number h.lacksNumber
  rw [Table.onLine_break h.keys hmark (by rw [hc]; rfl), hbefore.onLine, hstep]

theorem GivesStep.onLine_field (h : GivesStep table l step) {op : String → Op} {before field : String}
    (hop : ∀ text, (op text).write = before ++ " " ++ text ++ "@" ++ field) (hline : Lacks table (op "").write) :
    table.onLine (op l.step).write = (op (toString step)).write := by
  rw [hop] at hline
  have hbefore : Lacks table (before ++ " " ++ "") := hline.of_part ⟨[], ("@" ++ field).toList, by simp⟩
  have hfield : Lacks table field := hline.of_part ⟨(before ++ " " ++ "" ++ "@").toList, [], by simp⟩
  rw [hop, hop, Table.onLine_break h.keys (c := '@') rfl rfl, h.onLine_behind (c := ' ') rfl rfl hbefore,
    hfield.onLine]

/-! ### All lines of a loop -/

/-- The operations before the step is loaded. -/
def beforeStep (l : Loop) (startValue stopValue : Option Int) : List Op :=
  loadKnown l.counter l.start startValue ++ loadKnown l.limit l.stop stopValue ++ [distance l]

/-- The operations behind the load of the step, up to the label. -/
def behindStep (l : Loop) (stopValue : Option Int) : List Op :=
  [.add scratch scratch l.limit] ++ (if l.direction.isInclusive then [] else [.addic scratch scratch (-1)]) ++
    [.divd scratch scratch l.limit] ++ loadKnown l.limit l.stop stopValue ++
    [.cmpdi scratch 0, .ble (afterLabel l.label), .mtctr scratch, .align, .label l.label]

theorem setupKnown_step (l : Loop) (startValue stopValue : Option Int) (text : String) :
    setupKnown { l with step := text } startValue stopValue none ++ [.label l.label] =
      beforeStep l startValue stopValue ++ loadKnown l.limit text none ++ behindStep l stopValue := by
  have hdistance : distance { l with step := text } = distance l := rfl
  simp [setupKnown, passesKnown, divideBySymbolKnown, beforeStep, behindStep, hdistance]

theorem loopPrologue_eq {l : Loop} {startValue stopValue stepValue : Option Int}
    (hstart : Literal.value? l.start = .ok startValue) (hstop : Literal.value? l.stop = .ok stopValue)
    (hstep : Literal.value? l.step = .ok stepValue) :
    Arch.ppc64.loopPrologue l =
      .ok ((setupKnown l startValue stopValue stepValue ++ [Op.label l.label]).map Op.write) := by
  unfold Arch.loopPrologue
  rw [header_eq_ok_iff.mpr ⟨startValue, stopValue, stepValue, hstart, hstop, hstep, rfl⟩]
  rfl

theorem map_onLine_of_lacks {ops : List Op} (h : ∀ op ∈ ops, Lacks table op.write) :
    (ops.map Op.write).map table.onLine = ops.map Op.write := by
  rw [List.map_map]
  exact List.map_congr_left fun op hop => (h op hop).onLine

theorem write_fields (reg text : String) :
    (Op.lisHighest reg text).write = "lis " ++ reg ++ "," ++ " " ++ text ++ "@" ++ "highest" ∧
      (Op.oriHigher reg text).write = "ori " ++ reg ++ ", " ++ reg ++ "," ++ " " ++ text ++ "@" ++ "higher" ∧
      (Op.orisHigh reg text).write = "oris " ++ reg ++ ", " ++ reg ++ "," ++ " " ++ text ++ "@" ++ "h" ∧
      (Op.oriLow reg text).write = "ori " ++ reg ++ ", " ++ reg ++ "," ++ " " ++ text ++ "@" ++ "l" := by
  simp [← String.toList_inj, Op.write, toString]

theorem GivesStep.map_load (h : GivesStep table l step) {reg : String}
    (hlines : ∀ op ∈ loadKnown reg "" none, Lacks table op.write) :
    ((loadKnown reg l.step none).map Op.write).map table.onLine =
      (loadKnown reg (toString step) none).map Op.write := by
  have hload : ∀ text, loadKnown reg text none =
      [.lisHighest reg text, .oriHigher reg text, .shiftHigh reg, .orisHigh reg text, .oriLow reg text] := fun _ => rfl
  simp only [hload, List.forall_mem_cons] at hlines
  obtain ⟨hhighest, hhigher, hshift, hhigh, hlow, -⟩ := hlines
  simp only [hload, List.map_cons, List.map_nil, hshift.onLine,
    h.onLine_field (fun text => (write_fields reg text).1) hhighest,
    h.onLine_field (fun text => (write_fields reg text).2.1) hhigher,
    h.onLine_field (fun text => (write_fields reg text).2.2.1) hhigh,
    h.onLine_field (fun text => (write_fields reg text).2.2.2) hlow]

/-- Before the body the replacement turns the lines of a loop into those of the loop with the number. -/
theorem GivesStep.map_prologue (h : GivesStep table l step) (hstart : Literal.value? l.start = .ok startValue)
    (hstop : Literal.value? l.stop = .ok stopValue) :
    ((setupKnown l startValue stopValue none ++ [Op.label l.label]).map Op.write).map table.onLine =
      (setupKnown { l with step := toString step } startValue stopValue none ++ [Op.label l.label]).map Op.write := by
  have hbare := h.elsewhere _ (@loopPrologue_eq { l with step := "" } _ _ none hstart hstop rfl)
  rw [setupKnown_step] at hbare
  have hops : ∀ op ∈ beforeStep l startValue stopValue ++ loadKnown l.limit "" none ++ behindStep l stopValue,
      Lacks table op.write := fun op hop => hbare op.write (List.mem_append_left _ (List.mem_map_of_mem hop))
  simp only [List.forall_mem_append] at hops
  have hown : setupKnown l startValue stopValue none ++ [Op.label l.label] = _ :=
    setupKnown_step l startValue stopValue l.step
  rw [hown, setupKnown_step]
  simp only [List.map_append, map_onLine_of_lacks hops.1.1, h.map_load hops.1.2, map_onLine_of_lacks hops.2]

/-- Behind the body the step stands once, with a minus sign before it if the loop counts down. -/
theorem exists_write_footer (l : Loop) : ∃ before mark c, mark.toList = [c] ∧ isBreak c = true ∧
    ∀ text, (footer { l with step := text }).map Op.write =
      [before ++ mark ++ text, (Op.bdnz l.label).write, (Op.label (afterLabel l.label)).write] := by
  by_cases hdown : l.direction.countsDown = true
  · refine ⟨"addi " ++ l.counter ++ ", " ++ l.counter ++ ", ", "-", '-', rfl, rfl, fun text => ?_⟩
    simp [← String.toList_inj, footer, Op.write, toString, hdown]
  · refine ⟨"addi " ++ l.counter ++ ", " ++ l.counter ++ ",", " ", ' ', rfl, rfl, fun text => ?_⟩
    simp [← String.toList_inj, footer, Op.write, toString, hdown]

theorem GivesStep.map_epilogue (h : GivesStep table l step) (hstart : Literal.value? l.start = .ok startValue)
    (hstop : Literal.value? l.stop = .ok stopValue) :
    ((footer l).map Op.write).map table.onLine = (footer { l with step := toString step }).map Op.write := by
  have hbare := h.elsewhere _ (@loopPrologue_eq { l with step := "" } _ _ none hstart hstop rfl)
  have hlines : ∀ line ∈ (footer { l with step := "" }).map Op.write, Lacks table line :=
    fun line hline => hbare line (List.mem_append_right _ hline)
  obtain ⟨before, mark, c, hmark, hc, hfooter⟩ := exists_write_footer l
  have hown : (footer l).map Op.write = _ := hfooter l.step
  simp only [hfooter, List.forall_mem_cons] at hlines
  obtain ⟨hadvance, hbranch, hexit, -⟩ := hlines
  rw [hown, hfooter]
  simp only [List.map_cons, List.map_nil, h.onLine_behind hmark hc hadvance, hbranch.onLine, hexit.onLine]

/-! ### The passes of a loop -/

/-- How the step of a loop is written: as a number, or as a token that a table turns into one. The lines of the loop
    become the lines of the program by a function on lines. -/
inductive Writes (l : Loop) (step : Nat) : (String → String) → Prop
  | literal (h : Assembler.constant? l.step = some (step : Int)) : Writes l step id
  | token {table : Table} (h : GivesStep table l step) : Writes l step table.onLine

/-- The lines of the program are those of a loop with the number for its step, however it was written. -/
theorem Writes.exists_lines {spell : String → String} {start stop : Int} (h : Writes l step spell)
    (hspans : Spans l start stop step) :
    ∃ text startValue stopValue stepValue prologue, Assembler.constant? text = some (step : Int) ∧
      (startValue = none ∨ startValue = some start) ∧ (stopValue = none ∨ stopValue = some stop) ∧
      (stepValue = none ∨ stepValue = some (step : Int)) ∧ Arch.ppc64.loopPrologue l = .ok prologue ∧
      prologue.map spell =
        (setupKnown { l with step := text } startValue stopValue stepValue ++ [Op.label l.label]).map Op.write ∧
      (Arch.ppc64.loopEpilogue l).map spell = (footer { l with step := text }).map Op.write := by
  obtain ⟨startValue, hstart, hstart'⟩ := exists_value hspans.constant_start hspans.start_fits
  obtain ⟨stopValue, hstop, hstop'⟩ := exists_value hspans.constant_stop hspans.stop_fits
  cases h with
  | literal h =>
    have hstep := step_value (hspans.fitting h)
    rw [(hspans.values h).2.2] at hstep
    exact ⟨l.step, startValue, stopValue, _, _, h, hstart', hstop', Or.inr rfl, loopPrologue_eq hstart hstop hstep,
      List.map_id _, List.map_id _⟩
  | token h =>
    exact ⟨toString step, startValue, stopValue, none, _, Assembler.constant?_toString_nat step, hstart', hstop',
      Or.inl rfl, loopPrologue_eq hstart hstop h.symbol, h.map_prologue hstart hstop, h.map_epilogue hstart hstop⟩

end Tokens

/-- A loop on POWER runs exactly as often as it says. Its code comes to the exit label, in one pass over the body for each
    number on the way from the start that compares with the end as the direction says, and on each pass the loop register
    holds that number and the end register the end. This holds for a step that is written as a number and for one that is
    a token until a table puts a number in its place. The body may be any lines that come to the line behind them and
    leave the two registers and the count register as they were. -/
theorem loop_runs_as_written {ρ : Type} (other : String → Action (State ρ)) (l : Loop) (start stop : Int) (step : Nat)
    (hspans : Spans l start stop step) (spell : String → String) (hwrites : Writes l step spell) (body : List String)
    (hlabels : (l.label :: afterLabel l.label :: labels (body.map (read other))).Nodup)
    (hbody : Passable [l.counter, l.limit] (body.map (read other))) :
    ∃ prologue passes, Arch.ppc64.loopPrologue l = .ok prologue ∧
      (∀ k : Nat, k < passes ↔ l.direction.holds (l.direction.after start step k) stop = true) ∧
      ∀ s, RunsPasses ((prologue.map spell ++ body ++ (Arch.ppc64.loopEpilogue l).map spell).map (read other)) l
        (prologue.length - 1) body.length (l.direction.after start step) stop passes s := by
  obtain ⟨text, startValue, stopValue, stepValue, prologue, htext, hstart, hstop, hstep, hprologue, hbefore, hbehind⟩ :=
    hwrites.exists_lines hspans
  obtain ⟨hstartValue, hstopValue, hstepValue⟩ := hspans.values htext
  have hfitting := hspans.fitting htext
  have hvalue := hspans.value_eq htext
  rw [← hstartValue] at hstart
  rw [← hstopValue] at hstop
  rw [← hstepValue] at hstep
  have hcode := @isCounted ρ other _ hfitting _ _ _ hstart hstop hstep body
  have hlength : prologue.length - 1 = (setupKnown { l with step := text } startValue stopValue stepValue).length := by
    have hsame := congrArg List.length hbefore
    simp only [List.length_map, List.length_append, List.length_singleton] at hsame
    omega
  refine ⟨prologue, Loop.trips { l with step := text }, hprologue, fun k => ?_, fun s => ?_⟩
  · rw [Loop.lt_trips_iff hfitting.countable, hvalue, hstopValue]
  · have hruns := hcode.runs hfitting hlabels hbody s
    rw [hvalue, hstopValue, List.length_map] at hruns
    rw [hbefore, hbehind, hlength]
    exact hruns

/-- A loop whose step is put in later. -/
def stridedLoop : Loop := ⟨"l", "r3", "-5", "r4", "-0x10", .greaterEqual, "STEP"⟩

/-- The step and another key, which is a part of its name. -/
def strideTable : Table := ⟨[("STEP", "3"), ("TE", "x")]⟩

theorem stridedLoop_spans : Spans stridedLoop (-5) (-16) 3 := by
  constructor <;> decide

theorem strideTable_gives : GivesStep strideTable stridedLoop 3 where
  symbol := rfl
  ne := by decide
  number := rfl
  lacksNumber := by
    have hall : ∀ e ∈ strideTable.entries, Text.occurs e.1.toList "3".toList = false := by decide
    exact fun e he _ => Text.occurs_eq_false_iff.mp (hall e he)
  keys e he _ := by
    have hall : ∀ e ∈ strideTable.entries, e.1.toList.all (fun c => !isBreak c) = true := by decide
    exact List.all_eq_true.mp (hall e he)
  elsewhere lines hlines line hline e he _ := by
    have hall : ∀ line ∈ lines ++ Arch.ppc64.loopEpilogue { stridedLoop with step := "" },
        ∀ e ∈ strideTable.entries, Text.occurs e.1.toList line.toList = false := by
      cases hlines
      decide +kernel
    exact Text.occurs_eq_false_iff.mp (hall line hline e he)

/-- Counting down from minus five to minus sixteen by three takes four passes. -/
theorem stridedLoop_runs :
    ∃ prologue, Arch.ppc64.loopPrologue stridedLoop = .ok prologue ∧ ∀ s : State Unit,
      RunsPasses ((prologue.map strideTable.onLine ++ ["nop"] ++
        (Arch.ppc64.loopEpilogue stridedLoop).map strideTable.onLine).map (read fun _ => .effect id)) stridedLoop
        (prologue.length - 1) 1 (fun k => -5 - k * 3) (-16) 4 s := by
  have hread : (["nop"].map (read fun _ => .effect id) : List (Action (State Unit))) = [id].map .effect := rfl
  obtain ⟨prologue, passes, hprologue, hpasses, hruns⟩ := loop_runs_as_written (fun _ => .effect id) stridedLoop (-5)
    (-16) 3 stridedLoop_spans strideTable.onLine (.token strideTable_gives) ["nop"]
    (by rw [hread, labels_effects]; decide)
    (by rw [hread]; exact passable_effects fun f hf s => by rw [List.mem_singleton.mp hf]; exact ⟨rfl, fun _ _ => rfl⟩)
  have hthree := (hpasses 3).mpr (by decide)
  have hfour : ¬4 < passes := fun h => absurd ((hpasses 4).mp h) (by decide)
  obtain rfl : passes = 4 := by omega
  exact ⟨prologue, hprologue, hruns⟩

end Power

end BenchKernel
