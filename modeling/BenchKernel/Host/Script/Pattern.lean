/-! # Patterns

A pattern stands for the texts that it matches: `*` for any text, `?` for one character, and brackets for one
character of a set. Quoted characters stand for themselves. -/

namespace BenchKernel.Script

/-- A character, and whether it was quoted. -/
structure Glyph where
  char : Char
  quoted : Bool
  deriving DecidableEq, Repr

def Glyph.isPlain (g : Glyph) (c : Char) : Bool := !g.quoted && g.char == c

/-- What a set of characters is made of. -/
inductive Member
  | range (low high : Char)
  | named (name : String)
  deriving DecidableEq, Repr

/-- How often one of the patterns of a group has to match. -/
inductive GroupKind
  | once
  | maybe
  | some
  | several
  | never
  deriving DecidableEq, Repr

/-- What a pattern is made of. -/
inductive PatternItem
  | char (c : Char)
  | any
  | many
  | set (negated : Bool) (members : List Member)
  | group (kind : GroupKind) (alternatives : List (List PatternItem))

abbrev Pattern := List PatternItem

/-- The sets of characters that have names. -/
def characterSets : List (String × (Char → Bool)) :=
  let isGraph (c : Char) := 33 ≤ c.toNat && c.toNat ≤ 126
  [("alnum", Char.isAlphanum), ("alpha", Char.isAlpha), ("blank", fun c => c == ' ' || c == '\t'),
    ("cntrl", fun c => c.toNat < 32 || c.toNat == 127), ("digit", Char.isDigit), ("graph", isGraph),
    ("lower", Char.isLower), ("print", fun c => c == ' ' || isGraph c), ("punct", fun c => isGraph c && !c.isAlphanum),
    ("space", fun c => c == ' ' || (9 ≤ c.toNat && c.toNat ≤ 13)), ("upper", Char.isUpper),
    ("xdigit", fun c => c.isDigit || ("abcdefABCDEF".toList.contains c))]

def Member.holds (m : Member) (c : Char) : Bool :=
  match m with
  | range low high => low.toNat ≤ c.toNat && c.toNat ≤ high.toNat
  | named name => ((characterSets.lookup name).map fun isMember => isMember c).getD false

def PatternItem.holds (i : PatternItem) (c : Char) : Bool :=
  match i with
  | char d => c == d
  | any | many => true
  | set negated members => (members.any (·.holds c)) != negated
  | group _ _ => false

def PatternItem.isGroup : PatternItem → Bool
  | group _ _ => true
  | _ => false

namespace Pattern

def withoutEscapes : List Glyph → List Glyph
  | [] => []
  | [g] => [g]
  | g :: h :: rest => if g.isPlain '\\' then ⟨h.char, true⟩ :: withoutEscapes rest else g :: withoutEscapes (h :: rest)

def namedSet? (gs : List Glyph) : Option (String × List Glyph) :=
  characterSets.findSome? fun (name, _) =>
    let spelled := (s!"[:{name}:]").toList
    if (gs.take spelled.length).map Glyph.char = spelled then some (name, gs.drop spelled.length) else none

/-- The members of a set up to its bracket, and what follows it. -/
def members? : (fuel : Nat) → (first : Bool) → List Glyph → Option (List Member × List Glyph)
  | 0, _, _ => none
  | _ + 1, _, [] => none
  | fuel + 1, first, g :: rest =>
    let add (m : Member) (rest : List Glyph) : Option (List Member × List Glyph) :=
      (members? fuel false rest).map fun (members, after) => (m :: members, after)
    if g.isPlain ']' && !first then some ([], rest)
    else
      match if g.isPlain '[' then namedSet? (g :: rest) else none with
      | some (name, after) => add (.named name) after
      | none =>
        match rest with
        | dash :: h :: after =>
          if dash.isPlain '-' && !h.isPlain ']' then add (.range g.char h.char) after
          else add (.range g.char g.char) rest
        | _ => add (.range g.char g.char) rest

structure Style where
  caret : Bool := false
  groups : Bool := false

def groupKinds : List (Char × GroupKind) := [('@', .once), ('?', .maybe), ('*', .several), ('+', .some), ('!', .never)]

/-- The patterns of a group up to its parenthesis, and what follows it. -/
def alternatives? : (depth : Nat) → (current : List Glyph) → (done : List (List Glyph)) → List Glyph →
    Option (List (List Glyph) × List Glyph)
  | _, _, _, [] => none
  | depth, current, done, g :: rest =>
    if depth = 0 && g.isPlain ')' then some ((current.reverse :: done).reverse, rest)
    else if depth = 0 && g.isPlain '|' then alternatives? 0 [] (current.reverse :: done) rest
    else
      let depth := if g.isPlain '(' then depth + 1 else if g.isPlain ')' then depth - 1 else depth
      alternatives? depth (g :: current) done rest

variable (style : Style)

def groupAt? (gs : List Glyph) : Option (GroupKind × List (List Glyph) × List Glyph) :=
  match gs with
  | kind :: opening :: rest =>
    if style.groups && !kind.quoted && opening.isPlain '(' then
      (groupKinds.lookup kind.char).bind fun kind =>
        (alternatives? 0 [] [] rest).map fun (alternatives, after) => (kind, alternatives, after)
    else none
  | _ => none

/-- The items of a pattern. A bracket that is not closed stands for itself. -/
def items : (fuel : Nat) → List Glyph → Pattern
  | 0, _ => []
  | _ + 1, [] => []
  | fuel + 1, g :: rest =>
    match groupAt? style (g :: rest) with
    | some (kind, alternatives, after) => .group kind (alternatives.map (items fuel)) :: items fuel after
    | none =>
      if g.isPlain '*' then .many :: items fuel rest
      else if g.isPlain '?' then .any :: items fuel rest
      else if g.isPlain '[' then
        let negated := rest.head?.any fun g => g.isPlain '!' || (style.caret && g.isPlain '^')
        match members? (rest.length + 1) true (if negated then rest.drop 1 else rest) with
        | some (members, after) => .set negated members :: items fuel after
        | none => .char '[' :: items fuel rest
      else .char g.char :: items fuel rest

def ofGlyphs (gs : List Glyph) : Pattern :=
  let gs := withoutEscapes gs
  items style (gs.length + 1) gs

def isSpecial (gs : List Glyph) : Bool := gs.any fun g => g.isPlain '*' || g.isPlain '?' || g.isPlain '['

/-- Whether a pattern without groups matches a whole text. -/
def isPlainMatch : Pattern → List Char → Bool
  | [], cs => cs.isEmpty
  | .many :: items, [] => isPlainMatch items []
  | .many :: items, c :: cs => isPlainMatch items (c :: cs) || isPlainMatch (.many :: items) cs
  | _ :: _, [] => false
  | item :: items, c :: cs => item.holds c && isPlainMatch items cs
termination_by items cs => items.length + cs.length

def distinctRests (rests : List (List Char)) : List (List Char) :=
  rests.foldl (fun found cs => if found.any fun other => other.length == cs.length then found else found ++ [cs]) []

/-- What is left after any number of steps. -/
def repeated (step : List Char → List (List Char)) : (fuel : Nat) → (found : List (List Char)) → List (List Char) → List (List Char)
  | 0, found, _ => found
  | fuel + 1, found, newest =>
    let next := (distinctRests (newest.flatMap step)).filter fun cs => !(found.any fun other => other.length == cs.length)
    if next.isEmpty then found else repeated step fuel (found ++ next) next

/-- What can be left of a text after a match at its start. -/
def rests : (fuel : Nat) → Pattern → List Char → List (List Char)
  | 0, _, _ => []
  | _ + 1, [], cs => [cs]
  | fuel + 1, item :: items, cs =>
    let afterItem : List (List Char) :=
      match item with
      | .many => (List.range (cs.length + 1)).map fun n => cs.drop n
      | .group kind alternatives =>
        let one (cs : List Char) : List (List Char) := alternatives.flatMap fun p => rests fuel p cs
        match kind with
        | .once => one cs
        | .maybe => cs :: one cs
        | .some => repeated one (cs.length + 1) [] [cs]
        | .several => repeated one (cs.length + 1) [cs] [cs]
        | .never =>
          let lengths := (List.range (cs.length + 1)).filter fun n =>
            !(one (cs.take n)).any List.isEmpty
          lengths.map fun n => cs.drop n
      | item =>
        match cs with
        | c :: rest => if item.holds c then [rest] else []
        | [] => []
    distinctRests ((distinctRests afterItem).flatMap (rests fuel items))

def bound : Nat := 100000000

def isMatch (p : Pattern) (cs : List Char) : Bool :=
  if p.any PatternItem.isGroup then (rests bound p cs).any List.isEmpty else isPlainMatch p cs

def cutStart (p : Pattern) (longest : Bool) (cs : List Char) : List Char :=
  let lengths := List.range (cs.length + 1)
  match (if longest then lengths.reverse else lengths).find? fun n => p.isMatch (cs.take n) with
  | some n => cs.drop n
  | none => cs

def cutEnd (p : Pattern) (longest : Bool) (cs : List Char) : List Char :=
  let lengths := List.range (cs.length + 1)
  match (if longest then lengths else lengths.reverse).find? fun n => p.isMatch (cs.drop n) with
  | some n => cs.take n
  | none => cs

end Pattern

end BenchKernel.Script
