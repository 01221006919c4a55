/-
# Searching text

Prefix, suffix and infix of texts, over their characters.
-/
namespace RecordFilter

namespace Text

/-- Does `part` occur in `whole` as consecutive characters? -/
def occursIn (part : List Char) : List Char → Bool
  | [] => part.isEmpty
  | c :: rest => part.isPrefixOf (c :: rest) || occursIn part rest

theorem occursIn_iff (part whole : List Char) : occursIn part whole = true ↔ part <:+: whole := by
  induction whole with
  | nil => simp [occursIn]
  | cons c rest ih =>
    rw [occursIn, Bool.or_eq_true, ih, List.isPrefixOf_iff_prefix, List.infix_cons_iff]

/-- Does the first text occur in the second? -/
def includes (part whole : String) : Bool := occursIn part.toList whole.toList

theorem includes_iff (part whole : String) :
    includes part whole = true ↔ part.toList <:+: whole.toList := occursIn_iff ..

/-- Does the second text start with the first? -/
def isStart (part whole : String) : Bool := part.toList.isPrefixOf whole.toList

theorem isStart_iff (part whole : String) :
    isStart part whole = true ↔ part.toList <+: whole.toList := List.isPrefixOf_iff_prefix

/-- Does the second text end with the first? -/
def isEnd (part whole : String) : Bool := part.toList.isSuffixOf whole.toList

theorem isEnd_iff (part whole : String) :
    isEnd part whole = true ↔ part.toList <:+ whole.toList := List.isSuffixOf_iff_suffix

end Text

end RecordFilter
