import BenchKernel.Host.Script.Tree

/-! # Braces that stand for several words

A word such as `a{b,c}d` or `{1..3}` stands for several words, which are made before anything else is done with it. -/

namespace BenchKernel.Script

/-- A part of a word as braces see it: a plain character, or something that they do not look into. -/
inductive BraceItem
  | char (c : Char)
  | part (part : Part)

def BraceItem.isChar (i : BraceItem) (c : Char) : Bool :=
  match i with
  | char d => c == d
  | part _ => false

def braceItems (w : Word) : List BraceItem :=
  w.flatMap fun
    | .text false content => content.toList.map .char
    | other => [.part other]

def itemsWord (items : List BraceItem) : Word :=
  items.foldr (fun item word =>
    match item, word with
    | .char c, .text false content :: rest => .text false (String.singleton c ++ content) :: rest
    | .char c, _ => .text false (String.singleton c) :: word
    | .part p, _ => p :: word) []

def toClosing : (depth : Nat) → (inside : List BraceItem) → List BraceItem → Option (List BraceItem × List BraceItem)
  | _, _, [] => none
  | depth, inside, item :: rest =>
    if item.isChar '\x7d' then
      if depth = 0 then some (inside.reverse, rest) else toClosing (depth - 1) (item :: inside) rest
    else toClosing (if item.isChar '\x7b' then depth + 1 else depth) (item :: inside) rest

def cutCommas : (depth : Nat) → (current : List BraceItem) → List BraceItem → List (List BraceItem)
  | _, current, [] => [current.reverse]
  | depth, current, item :: rest =>
    if depth = 0 && item.isChar ',' then current.reverse :: cutCommas 0 [] rest
    else
      let depth := if item.isChar '\x7b' then depth + 1 else if item.isChar '\x7d' then depth - 1 else depth
      cutCommas depth (item :: current) rest

def itemsText? (items : List BraceItem) : Option (List Char) :=
  items.mapM fun
    | .char c => some c
    | .part _ => none

def cutDots : (current : List Char) → List Char → List (List Char)
  | current, [] => [current.reverse]
  | current, '.' :: '.' :: rest => current.reverse :: cutDots [] rest
  | current, c :: rest => cutDots (c :: current) rest

def mostWords : Nat := 100000

def rangeOf (first last step : Int) : List Int :=
  let step : Nat := if step = 0 then 1 else step.natAbs
  let count := ((last - first).natAbs / step + 1)
  (List.range (min count mostWords)).map fun i => if first ≤ last then first + (i * step : Nat) else first - (i * step : Nat)

def zeroFilled (width : Nat) (n : Int) : String :=
  let digits := toString n.natAbs
  let sign := if n < 0 then "-" else ""
  sign ++ "".pushn '0' (width - digits.length - sign.length) ++ digits

/-- The texts of a range of numbers or letters. -/
def rangeTexts? (cs : List Char) : Option (List String) :=
  let ofBounds (first last : List Char) (step : Int) : Option (List String) :=
    match (String.ofList first).toInt?, (String.ofList last).toInt? with
    | some a, some b =>
      let isFilled (cs : List Char) : Bool :=
        let digits := if cs.head? = some '-' then cs.drop 1 else cs
        1 < digits.length && digits.head? = some '0'
      let width := if isFilled first || isFilled last then max first.length last.length else 0
      some ((rangeOf a b step).map (zeroFilled width))
    | _, _ =>
      match first, last with
      | [a], [b] =>
        if a.isAlpha && b.isAlpha then
          some ((rangeOf a.toNat b.toNat step).map fun n => String.singleton (Char.ofNat n.toNat))
        else none
      | _, _ => none
  match cutDots [] cs with
  | [first, last] => ofBounds first last 1
  | [first, last, step] => (String.ofList step).toInt?.bind (ofBounds first last)
  | _ => none

/-- The words that a word with braces stands for. -/
def braceWords : (fuel : Nat) → (before : List BraceItem) → List BraceItem → List (List BraceItem)
  | 0, before, items => [before.reverse ++ items]
  | _ + 1, before, [] => [before.reverse]
  | fuel + 1, before, item :: rest =>
    if item.isChar '\x7b' then
      match toClosing 0 [] rest with
      | none => braceWords fuel (item :: before) rest
      | some (inside, after) =>
        let choices : Option (List (List BraceItem)) :=
          match cutCommas 0 [] inside with
          | [_] => ((itemsText? inside).bind rangeTexts?).map fun texts => texts.map fun text => text.toList.map .char
          | several => some (several.flatMap (braceWords fuel []))
        match choices with
        | none => braceWords fuel (item :: before) rest
        | some choices =>
          let ends := braceWords fuel [] after
          choices.flatMap fun choice => ends.map fun last => before.reverse ++ choice ++ last
    else braceWords fuel (item :: before) rest

def braceExpanded (w : Word) : List Word :=
  let items := braceItems w
  if items.any (·.isChar '\x7b') then (braceWords (items.length + 1) [] items).map itemsWord else [w]

end BenchKernel.Script
