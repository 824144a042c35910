import DialogueScript.Text.CodePoints

/- Spans of characters as spans of bytes. UTF-8 writes a code point as a leading byte and further
   bytes with six bits each. A span of code points is a union of products of byte spans, one for
   each place, and these products are listed here in ascending order. -/
namespace DialogueScript.Text

/-- How UTF-8 writes the code points of a span: the number of further bytes, and what is added to
the topmost bits to make the leading byte. -/
structure Utf8Form where
  further : Nat
  lead : Nat
  codes : Span
deriving DecidableEq, Repr

/-- Surrogates are no characters, so the three-byte form has two spans. -/
def utf8Forms : List Utf8Form :=
  [⟨0, 0, ⟨0, 0x7F⟩⟩, ⟨1, 0xC0, ⟨0x80, 0x7FF⟩⟩, ⟨2, 0xE0, ⟨0x800, 0xD7FF⟩⟩,
    ⟨2, 0xE0, ⟨0xE000, 0xFFFF⟩⟩, ⟨3, 0xF0, ⟨0x10000, lastCode⟩⟩]

def furtherLead : Nat := 0x80

def furtherSpan : Span := ⟨furtherLead, furtherLead + 63⟩

def byteProducts : (further lead : Nat) → Span → List (List Span)
  | 0, lead, codes => [[⟨lead + codes.first, lead + codes.last⟩]]
  | further + 1, lead, codes =>
    let unit := Nat.pow 64 (further + 1)
    let under (digit : Nat) (codes : Span) : List (List Span) :=
      (byteProducts further furtherLead codes).map (⟨lead + digit, lead + digit⟩ :: ·)
    let low := codes.first / unit
    let high := codes.last / unit
    if low = high then under low ⟨codes.first % unit, codes.last % unit⟩
    else
      let isLowWhole := codes.first % unit = 0
      let isHighWhole := codes.last % unit = unit - 1
      let below := if isLowWhole then [] else under low ⟨codes.first % unit, unit - 1⟩
      let above := if isHighWhole then [] else under high ⟨0, codes.last % unit⟩
      let start := if isLowWhole then low else low + 1
      let stop := if isHighWhole then high + 1 else high
      let whole := List.replicate (further + 1) furtherSpan
      let middle := if start < stop then [⟨lead + start, lead + stop - 1⟩ :: whole] else []
      below ++ middle ++ above

def Utf8Form.products (form : Utf8Form) (codes : Span) : List (List Span) :=
  let first := max codes.first form.codes.first
  let last := min codes.last form.codes.last
  if first ≤ last then byteProducts form.further form.lead ⟨first, last⟩ else []

def Span.bytes (codes : Span) : List (List Span) := utf8Forms.flatMap (·.products codes)

end DialogueScript.Text
