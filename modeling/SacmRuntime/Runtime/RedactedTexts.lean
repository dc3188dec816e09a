import SacmRuntime.Runtime.SecretAssignments

namespace SacmRuntime

namespace Redaction

/-- The characters of `isoformat()`. -/
def isoChars : List Char := "0123456789-:.+T".toList

def Hides (secret piece mark : List Char) : Prop := piece = secret ∧ mark = redacted

section Occurrences
variable {secret other text new : List Char}

theorem Hides.nil {old : List Char} (replacement : Replacement (Hides secret) old []) : old = [] := by
  generalize whole : ([] : List Char) = new at replacement
  cases replacement with
  | nil => rfl
  | keep _ _ => cases whole
  | swap hides _ =>
    obtain ⟨-, rfl⟩ := hides
    cases whole

end Occurrences

section Texts
variable {rules : Rules} {secret value : String} {hidden : List String} {text : List Char}

/-- The text holds a configured secret. -/
def Leaks (rules : Rules) (text : String) : Prop := ∃ secret ∈ secrets rules, secret.toList <:+: text.toList

/-- The text holds no configured secret, and the value of every secret assignment
in it is the mark. -/
def Settled (rules : Rules) (text : String) : Prop := ¬Leaks rules text ∧ Stable rules none text.toList

section
variable (apart : ∀ secret ∈ secrets rules, Apart redacted secret.toList)
include apart

variable (documented : rules.Documented)
include documented

end

end Texts

end Redaction
end SacmRuntime
