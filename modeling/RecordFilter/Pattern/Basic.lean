/-
# Patterns

A pattern is a text together with the rule that it was read as.  It is made by `compile?` alone,
which refuses what is no pattern, and it matches a text when some part of the text does.
-/
import RecordFilter.Pattern.Machine
import RecordFilter.Pattern.Matcher
import RecordFilter.Pattern.Meaning
import RecordFilter.Pattern.Reader

namespace RecordFilter

namespace Pattern

/-- The rule of the text of a pattern; none when it is no pattern or its machine is too large. -/
def ruleOf? (source : String) : Option Rule := do
  let (rule, _) ← Rule.ofTree (← readTree source) {}
  if rule.fits then some rule else none

end Pattern

/-- A pattern: its text, and the rule that the text stands for. -/
structure Pattern where
  source : String
  rule : Pattern.Rule
  compiled : Pattern.ruleOf? source = some rule

namespace Pattern

/-- The pattern of a text. -/
def compile? (source : String) : Option Pattern :=
  match h : ruleOf? source with
  | some rule => some ⟨source, rule, h⟩
  | none => none

/-- Does some part of a text match? -/
def isMatch (p : Pattern) (text : String) : Bool := p.rule.occursIn text.toList

theorem compile?_source (p : Pattern) : compile? p.source = some p := by
  obtain ⟨source, rule, compiled⟩ := p
  unfold compile?
  split
  next r h =>
    have e : r = rule := Option.some.inj (h.symm.trans compiled)
    subst e
    rfl
  next h => exact absurd (h.symm.trans compiled) (by simp)

end Pattern

end RecordFilter
