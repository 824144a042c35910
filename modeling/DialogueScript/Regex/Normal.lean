import DialogueScript.Regex.Basic

/- Normal forms of expressions. Characters that stand next to each other become one text, a test
   becomes the set of characters that pass it, and what can be said with fewer parts is. A form
   matches what the expression does; the memory of an automaton is measured on it. -/
namespace DialogueScript.Regex

inductive Atom where
  | text (chars : List Char)
  | oneOf (spans : List Text.Span)
deriving DecidableEq, Repr

abbrev NormalForm := Regex Atom

def Atom.ofSpans : List Text.Span → Atom
  | [span] => if span.first = span.last then .text [Char.ofNat span.first] else .oneOf [span]
  | spans => .oneOf spans

def Atom.ofLetters (chars : List Char) : Atom :=
  let forms := chars.flatMap Text.letterForms
  .ofSpans (Text.joinSpans (forms.map fun c => ⟨c.toNat, c.toNat⟩))

def CharTest.atom : CharTest → Atom
  | .literal c => .ofLetters [c]
  | .anyOf cs => .ofLetters cs
  | .notLineFeed => .oneOf (Text.spans [0, 0xA, 0xB])
  | .blank => .oneOf (Text.spans Text.blankBoundaries)
  | .notBlank => .oneOf (Text.spans (0 :: Text.blankBoundaries))

namespace NormalForm

def isZeroWidth : NormalForm → Bool
  | .empty | .atStart | .atEnd => true
  | .one _ => false
  | .seq first second => isZeroWidth first && isZeroWidth second
  | .alt left right => isZeroWidth left && isZeroWidth right
  | .repeated body _ most _ => isZeroWidth body || most = some 0
  | .group _ body => isZeroWidth body

def isConsuming : NormalForm → Bool
  | .empty | .atStart | .atEnd => false
  | .one _ => true
  | .seq first second => isConsuming first || isConsuming second
  | .alt left right => isConsuming left && isConsuming right
  | .repeated body least _ _ => 0 < least && isConsuming body
  | .group _ body => isConsuming body

def opensAtStart : NormalForm → Bool
  | .atStart => true
  | .seq first second => opensAtStart first || (isZeroWidth first && opensAtStart second)
  | .alt left right => opensAtStart left && opensAtStart right
  | .repeated body least _ _ => 0 < least && opensAtStart body
  | .group _ body => opensAtStart body
  | _ => false

def closesAtEnd : NormalForm → Bool
  | .atEnd => true
  | .seq first second => closesAtEnd second || (isZeroWidth second && closesAtEnd first)
  | .alt left right => closesAtEnd left && closesAtEnd right
  | .repeated body least _ _ => 0 < least && closesAtEnd body
  | .group _ body => closesAtEnd body
  | _ => false

def hasCapture : NormalForm → Bool
  | .seq first second => hasCapture first || hasCapture second
  | .alt left right => hasCapture left || hasCapture right
  | .repeated body _ _ _ => hasCapture body
  | .group captured body => captured || hasCapture body
  | _ => false

def glue : NormalForm → NormalForm → NormalForm
  | .empty, rest => rest
  | .seq first more, rest => glue first (glue more rest)
  | factor, .empty => factor
  | .one (.text chars), .one (.text further) => .one (.text (chars ++ further))
  | .one (.text chars), .seq (.one (.text further)) more =>
    .seq (.one (.text (chars ++ further))) more
  | factor, rest => .seq factor rest

def glueAll (factors : List NormalForm) : NormalForm := factors.foldr glue .empty

def factors : NormalForm → List NormalForm
  | .seq first more => first :: factors more
  | factor => [factor]

/-- A repetition. What takes up no character is there or not, however often it may be repeated. -/
def times (body : NormalForm) (least : Nat) (most : Option Nat) (eager : Bool) : NormalForm :=
  let (least, most) :=
    if isZeroWidth body then (min least 1, some (min (most.getD 1) 1)) else (least, most)
  if most = some 0 then .empty
  else if least = 1 ∧ most = some 1 then body
  else .repeated body least most eager

def summands : NormalForm → List NormalForm
  | .alt left right => summands left ++ summands right
  | summand => [summand]

def chain : List NormalForm → NormalForm
  | [] => .empty
  | [form] => form
  | form :: more => .alt form (chain more)

def letter? : NormalForm → Option Text.Span
  | .one (.text [c]) => some ⟨c.toNat, c.toNat⟩
  | _ => none

def set? : NormalForm → Option (List Text.Span)
  | .one (.oneOf spans) => some spans
  | _ => none

/-- A choice between single characters, or between sets of characters, is one set. -/
def union? (summands : List NormalForm) : Option (List Text.Span) :=
  (summands.mapM letter?).or ((summands.mapM set?).map List.flatten)

def choice (forms : List NormalForm) : NormalForm :=
  match forms.flatMap summands with
  | [form] => form
  | summands =>
    match union? summands with
    | some spans => .one (.ofSpans (Text.joinSpans spans))
    | none => chain summands

/-- The factors that two lists begin with alike. No two captures are alike. -/
def sharedFactors : List NormalForm → List NormalForm → List NormalForm
  | x :: xs, y :: ys => if x = y ∧ !hasCapture x then x :: sharedFactors xs ys else []
  | _, _ => []

def isSeq : NormalForm → Bool
  | .seq _ _ => true
  | _ => false

def commonFactors : List NormalForm → List NormalForm
  | [] => []
  | form :: more =>
    if isSeq form && more.all isSeq then
      more.foldl (fun shared other => sharedFactors shared (factors other)) (factors form)
    else []

def ofAlternatives (forms : List NormalForm) : NormalForm :=
  let plain := choice forms
  match plain with
  | .alt _ _ =>
    let parts := summands plain
    let common := commonFactors parts
    if common.isEmpty then plain
    else
      let rests := parts.map fun part => glueAll ((factors part).drop common.length)
      glueAll (common ++ [choice rests])
  | _ => plain

end NormalForm

def alternativeForms : Regex CharTest → List NormalForm
  | .empty => [.empty]
  | .one test => [.one test.atom]
  | .atStart => [.atStart]
  | .atEnd => [.atEnd]
  | .seq first second =>
    [NormalForm.glue (NormalForm.ofAlternatives first.alternativeForms)
      (NormalForm.ofAlternatives second.alternativeForms)]
  | .alt left right => left.alternativeForms ++ right.alternativeForms
  | .repeated body least most eager =>
    [NormalForm.times (NormalForm.ofAlternatives body.alternativeForms) least most eager]
  | .group captured body =>
    let form := NormalForm.ofAlternatives body.alternativeForms
    if captured then [.group true form] else [form]

def normalForm (regex : Regex CharTest) : NormalForm :=
  NormalForm.ofAlternatives regex.alternativeForms

end DialogueScript.Regex
