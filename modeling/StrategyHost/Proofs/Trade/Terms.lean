import StrategyHost.Trade.Terms

/-!
# Codes of terms

Every term of the vocabularies is found under its own code, and under no other.
-/

namespace StrategyHost.Trade

/-- A vocabulary in which no term has another's code. -/
class Vocabulary.Lawful (Term : Type) [Vocabulary Term] : Prop where
  ofCode?_code : forall term : Term, ofCode? (code term) = some term

instance : Vocabulary.Lawful CommandType where
  ofCode?_code term := by cases term; rfl

instance : Vocabulary.Lawful Direction where
  ofCode?_code term := by cases term <;> rfl

instance : Vocabulary.Lawful Offset where
  ofCode?_code term := by cases term <;> rfl

instance : Vocabulary.Lawful OrderType where
  ofCode?_code term := by cases term <;> rfl

@[simp] theorem Vocabulary.ofCode?_code {Term : Type} [Vocabulary Term] [Lawful Term]
    (term : Term) : ofCode? (code term) = some term :=
  Lawful.ofCode?_code term

namespace Vocabulary

variable {Term : Type} [Vocabulary Term]

variable (Term) in
/-- The codes that a vocabulary has terms for. -/
def codes : List Nat :=
  (terms : List Term).map fun term => (code term).toNat

variable [Lawful Term]

theorem ofCode?_eq_some_iff {word : UInt32} {term : Term} :
    ofCode? word = some term ↔ word = code term := by
  constructor
  · intro found
    have matched := List.find?_some found
    exact (beq_iff_eq.mp matched).symm
  · rintro rfl
    exact ofCode?_code term

variable (Term) in
/-- A code is one of the vocabulary's if a term has it. -/
theorem mem_codes_iff {number : Nat} :
    number ∈ codes Term ↔ exists term : Term, (code term).toNat = number := by
  constructor
  · intro member
    obtain ⟨term, _, same⟩ := List.mem_map.mp member
    exact ⟨term, same⟩
  · rintro ⟨term, rfl⟩
    have listed : term ∈ (terms : List Term) := List.mem_of_find?_eq_some (ofCode?_code term)
    exact List.mem_map.mpr ⟨term, listed, rfl⟩

end Vocabulary

end StrategyHost.Trade
