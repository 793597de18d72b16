import SignificantFigures.Text.CaseTable

/-!
Lower-casing a text. Every character is replaced by its own lower-case form, with two exceptions:
the capital I with a dot becomes two characters, and a capital sigma at the end of a word becomes a
final sigma.
-/

set_option autoImplicit false

namespace SignificantFigures.Text

/-- Whether the first character that is not passed over carries case. -/
def meetsCased (text : List Char) : Bool :=
  match text.dropWhile passedOverRanges.contains with
  | [] => false
  | c :: _ => casedRanges.contains c

/-- The lower-case form of a character apart from its surroundings. -/
def lowerChar (c : Char) : Char :=
  if c.toNat < 128 then c.toLower
  else
    match caseRuns.find? fun run =>
      run.first ≤ c.toNat && c.toNat ≤ run.last && (c.toNat - run.first) % run.step == 0 with
    | some run => Char.ofNat ((c.toNat : Int) + run.offset).toNat
    | none => c

def capitalSigma : Char := '\u03A3'

/-- The capital I with a dot above. -/
def dottedCapitalI : Char := '\u0130'

/-- Lower-cases a text, given the characters before it from the last to the first. -/
def lowerAfter (before : List Char) : List Char → List Char
  | [] => []
  | c :: rest =>
    let lower :=
      if c = capitalSigma then
        [if meetsCased before && !meetsCased rest then '\u03C2' else '\u03C3']
      else if c = dottedCapitalI then ['i', '\u0307']
      else [lowerChar c]
    lower ++ lowerAfter (c :: before) rest

def lower (text : List Char) : List Char :=
  lowerAfter [] text

end SignificantFigures.Text
