import StrategyHost.Json.Shape
import Mathlib.Data.List.Nodup

/-!
# What the members of an object give

A record read from an object without its functions: which names may not be repeated, what a member
gives that is there, and what stands for one that is not. The functions on records say the same
(`Record.Holds.defaulted_eq_some_iff` and its siblings).
-/

namespace StrategyHost.Json

variable {α : Type}

/-- Members as an object has them whose names are texts. -/
def named (members : List (String × Value)) : List (Option String × Value) :=
  members.map fun (name, value) => (some name, value)

theorem named_injective {members other : List (String × Value)}
    (same : named members = named other) : members = other := by
  refine List.map_injective_iff.mpr ?_ same
  rintro ⟨first, value⟩ ⟨second, given⟩ equal
  simpa using equal

theorem mem_named {members : List (String × Value)} {name : String} {value : Value} :
    (some name, value) ∈ named members ↔ (name, value) ∈ members := by
  simp [named]

/-- Whether each of these names is given to one member at most. -/
def Once (names : List String) (members : List (String × Value)) : Prop :=
  ∀ name ∈ names, (members.map Prod.fst).count name <= 1

/-- What a member gives: what its value says, or what stands for its absence, if anything does. -/
inductive Gives (members : List (String × Value)) (name : String) (reads : Value -> α -> Prop)
    (absent? : Option α) (result : α) : Prop where
  | given (value : Value) (member : (name, value) ∈ members) (read : reads value result)
  | absent (without : name ∉ members.map Prod.fst) (usual : absent? = some result)

/-- A text. -/
inductive IsText : Value -> String -> Prop where
  | content (content : String) : IsText (.text (some content)) content

/-- A natural number below a limit, written without sign, point, and exponent. -/
inductive IsNatural (limit : Nat) : Value -> Nat -> Prop where
  | digits (digits : List Nat) (below : Binary64.ofDigits digits < limit) :
      IsNatural limit (.number ⟨false, digits, [], none⟩) (Binary64.ofDigits digits)

/-- Null, or something else. -/
inductive OrNull (reads : Value -> α -> Prop) : Value -> Option α -> Prop where
  | null : OrNull reads .null none
  | given {value : Value} {result : α} (notNull : value ≠ .null) (read : reads value result) :
      OrNull reads value (some result)

/-- What is not null is read alike instead of something else that is not. -/
theorem OrNull.imp {reads : Value -> α -> Prop} {value instead : Value} {result? : Option α}
    (read : OrNull reads value result?) (notNull : value ≠ .null) (still : instead ≠ .null)
    (keeps : ∀ result, reads value result -> reads instead result) :
    OrNull reads instead result? := by
  cases read with
  | null => exact absurd rfl notNull
  | given _ read => exact .given still (keeps _ read)

/-- An object that its members describe. -/
inductive IsObject (describes : List (String × Value) -> α -> Prop) : Value -> α -> Prop where
  | members (members : List (String × Value)) {result : α} (described : describes members result) :
      IsObject describes (.object (named members)) result

namespace Value

theorem text?_eq_some_iff {value : Value} {content : String} :
    value.text? = some content ↔ IsText value content := by
  constructor
  · intro read
    cases value with
    | text content? =>
      obtain rfl : content? = some content := read
      exact .content content
    | _ => simp [text?] at read
  · rintro ⟨⟩
    rfl

theorem natural?_eq_some_iff {limit number : Nat} {value : Value} :
    value.natural? limit = some number ↔ IsNatural limit value number := by
  constructor
  · intro read
    unfold natural? at read
    split at read
    case h_2 => simp at read
    case h_1 magnitude isInteger =>
      split at read
      case isFalse => simp at read
      case isTrue below =>
        obtain rfl := Option.some.inj read
        unfold integer? at isInteger
        split at isInteger
        case h_2 => simp at isInteger
        case h_1 negative digits =>
          cases negative with
          | false =>
            obtain rfl : Binary64.ofDigits digits = magnitude := by
              simpa [Int.ofNat_inj] using isInteger
            exact .digits digits below
          | true =>
            -- The opposite of a number is none unless it is zero, which is no integer with a sign.
            simp only [if_true] at isInteger
            split at isInteger
            · simp at isInteger
            · simp only [Option.some.injEq, Int.ofNat_eq_natCast] at isInteger
              omega
  · rintro ⟨digits, below⟩
    simp [natural?, integer?, below]

end Value

/-- A member of which there is one at most is what is looked up. -/
theorem lookup_eq_some_iff_mem {members : List (String × Value)} {name : String} {value : Value}
    (once : (members.map Prod.fst).count name <= 1) :
    members.lookup name = some value ↔ (name, value) ∈ members := by
  induction members with
  | nil => simp
  | cons member rest inductionHypothesis =>
    obtain ⟨other, given⟩ := member
    rw [List.map_cons, List.count_cons] at once
    rw [List.lookup_cons, List.mem_cons, Prod.mk.injEq]
    by_cases same : name = other
    · subst same
      have none : (name, value) ∉ rest := by
        intro member
        have positive : 0 < (rest.map Prod.fst).count name :=
          List.count_pos_iff.mpr (List.mem_map_of_mem member)
        simp only [beq_self_eq_true, if_true] at once
        omega
      simp [none, eq_comm]
    · have differ : (name == other) = false := beq_eq_false_iff_ne.mpr same
      rw [differ, inductionHypothesis (by omega)]
      simp [same]

/-- A record that holds the known members of an object. -/
structure Record.Holds (record : Record) (names : List String) (members : List (String × Value)) :
    Prop where
  once : Once names members
  members : record.members = members.filter fun member => names.contains member.1

/-- The names that are texts are taken off all members, or off none. -/
theorem mapM_eq_some_iff {raw : List (Option String × Value)} {members : List (String × Value)} :
    (raw.mapM fun (name, value) => name.map (·, value)) = some members ↔ raw = named members := by
  induction raw generalizing members with
  | nil => cases members <;> simp [named]
  | cons member rest inductionHypothesis =>
    obtain ⟨name?, value⟩ := member
    cases name? with
    | none => cases members <;> simp [named]
    | some name =>
      rw [List.mapM_cons]
      change Option.bind (rest.mapM _) (fun others => some ((name, value) :: others)) = _ ↔ _
      simp only [Option.bind_eq_some_iff, inductionHypothesis, Option.some.injEq]
      constructor
      · rintro ⟨others, rfl, rfl⟩
        rfl
      · intro same
        cases members with
        | nil => simp [named] at same
        | cons first others =>
          simp only [named, List.map_cons, List.cons.injEq, Prod.mk.injEq, Option.some.injEq]
            at same
          obtain ⟨⟨rfl, rfl⟩, rest⟩ := same
          exact ⟨others, rest, rfl⟩

/-- The known members have different names if none of these is repeated. -/
theorem nodup_known_iff {names : List String} {members : List (String × Value)} :
    ((members.filter fun member => names.contains member.1).map Prod.fst).Nodup ↔
      Once names members := by
  have known : (members.filter fun member => names.contains member.1).map Prod.fst =
      (members.map Prod.fst).filter names.contains := by
    rw [List.filter_map]
    rfl
  rw [known, List.nodup_iff_count_le_one]
  constructor
  · intro atMostOne name isKnown
    rw [← List.count_filter (p := names.contains) (by simpa using isKnown)]
    exact atMostOne name
  · intro once name
    by_cases isKnown : name ∈ names
    · rw [List.count_filter (by simpa using isKnown)]
      exact once name isKnown
    · have none : name ∉ (members.map Prod.fst).filter names.contains := by
        simp [isKnown]
      rw [List.count_eq_zero_of_not_mem none]
      exact Nat.zero_le 1

/-- An object gives a record if its names are texts and none of the known ones is repeated. -/
theorem Record.ofMembers?_eq_some_iff {layout : Layout} {raw : List (Option String × Value)}
    {record : Record} :
    ofMembers? layout raw = some record ↔
      ∃ members, raw = named members ∧ record.Holds layout.names members := by
  simp only [ofMembers?, bind, Option.bind_eq_some_iff, mapM_eq_some_iff]
  refine exists_congr fun members => and_congr_right fun _ => ?_
  rw [Option.ite_none_right_eq_some, nodup_known_iff]
  constructor
  · rintro ⟨once, same⟩
    exact ⟨once, by rw [← Option.some.inj same]⟩
  · rintro ⟨once, same⟩
    exact ⟨once, by rw [← same]⟩

namespace Record.Holds

variable {record : Record} {names : List String} {members : List (String × Value)}
  {name : String}

/-- A known member is found if it is there. -/
theorem find?_eq_some_iff (holds : record.Holds names members) (known : name ∈ names)
    {value : Value} : record.find? name = some value ↔ (name, value) ∈ members := by
  have atMostOne : (record.members.map Prod.fst).count name <= 1 :=
    List.nodup_iff_count_le_one.mp (holds.members ▸ nodup_known_iff.mpr holds.once) name
  rw [find?, lookup_eq_some_iff_mem atMostOne, holds.members, List.mem_filter]
  simp [known]

theorem find?_eq_none_iff (holds : record.Holds names members) (known : name ∈ names) :
    record.find? name = none ↔ name ∉ members.map Prod.fst := by
  rw [Option.eq_none_iff_forall_ne_some]
  simp [holds.find?_eq_some_iff known]

variable {reads : Value -> α -> Prop} {read : Value -> Option α}

/-- What a member gives is what is read of what is found. -/
theorem gives_iff (holds : record.Holds names members) (known : name ∈ names) {absent? : Option α}
    {result : α} :
    Gives members name reads absent? result ↔
      match record.find? name with
      | some value => reads value result
      | none => absent? = some result := by
  cases found : record.find? name with
  | none =>
    have without := (holds.find?_eq_none_iff known).mp found
    constructor
    · rintro (⟨value, member, _⟩ | ⟨_, usual⟩)
      · exact absurd (List.mem_map_of_mem member) without
      · exact usual
    · exact .absent without
  | some value =>
    have member := (holds.find?_eq_some_iff known).mp found
    constructor
    · rintro (⟨other, given, reads⟩ | ⟨without, _⟩)
      · obtain rfl : value = other :=
          Option.some.inj (found.symm.trans ((holds.find?_eq_some_iff known).mpr given))
        exact reads
      · exact absurd (List.mem_map_of_mem member) without
    · exact .given value member

section

variable (holds : record.Holds names members) (known : name ∈ names)
  (same : ∀ value result, (name, value) ∈ members ->
    (read value = some result ↔ reads value result))

include holds known same

theorem required_eq_some_iff {result : α} :
    record.required name read = some result ↔ Gives members name reads none result := by
  rw [holds.gives_iff known, required]
  cases found : record.find? name with
  | none => simp
  | some value => exact same value result ((holds.find?_eq_some_iff known).mp found)

theorem defaulted_eq_some_iff {absent result : α} :
    record.defaulted name absent read = some result ↔
      Gives members name reads (some absent) result := by
  rw [holds.gives_iff known, defaulted]
  cases found : record.find? name with
  | none => exact Iff.rfl
  | some value => exact same value result ((holds.find?_eq_some_iff known).mp found)

theorem optional_eq_some_iff {result? : Option α} :
    record.optional name read = some result? ↔
      Gives members name (OrNull reads) (some none) result? := by
  rw [holds.gives_iff known]
  cases found : record.find? name with
  | none => simp [optional, found]
  | some value =>
    have agrees (result : α) : read value = some result ↔ reads value result :=
      same value result ((holds.find?_eq_some_iff known).mp found)
    by_cases isNull : value = .null
    · subst isNull
      have nothing : record.optional name read = some none := by simp [optional, found]
      rw [nothing, Option.some.injEq]
      constructor
      · rintro rfl
        exact .null
      · rintro (_ | ⟨notNull, _⟩)
        · rfl
        · exact absurd rfl notNull
    · have something : record.optional name read = (read value).map some := by
        cases value <;> simp_all [optional]
      rw [something, Option.map_eq_some_iff]
      constructor
      · rintro ⟨result, found, rfl⟩
        exact .given isNull ((agrees result).mp found)
      · rintro (_ | ⟨_, found⟩)
        · exact absurd rfl isNull
        · exact ⟨_, (agrees _).mpr found, rfl⟩

end

section

variable (holds : record.Holds names members) (known : name ∈ names)

include holds known

theorem required_text {content : String} :
    record.required name Value.text? = some content ↔ Gives members name IsText none content :=
  holds.required_eq_some_iff known fun _ _ _ => Value.text?_eq_some_iff

theorem defaulted_text {absent content : String} :
    record.defaulted name absent Value.text? = some content ↔
      Gives members name IsText (some absent) content :=
  holds.defaulted_eq_some_iff known fun _ _ _ => Value.text?_eq_some_iff

theorem optional_text {content? : Option String} :
    record.optional name Value.text? = some content? ↔
      Gives members name (OrNull IsText) (some none) content? :=
  holds.optional_eq_some_iff known fun _ _ _ => Value.text?_eq_some_iff

theorem defaulted_natural {limit absent number : Nat} :
    record.defaulted name absent (Value.natural? limit) = some number ↔
      Gives members name (IsNatural limit) (some absent) number :=
  holds.defaulted_eq_some_iff known fun _ _ _ => Value.natural?_eq_some_iff

theorem optional_natural {limit : Nat} {number? : Option Nat} :
    record.optional name (Value.natural? limit) = some number? ↔
      Gives members name (OrNull (IsNatural limit)) (some none) number? :=
  holds.optional_eq_some_iff known fun _ _ _ => Value.natural?_eq_some_iff

end

end Record.Holds

/-- A value gives a record if it is no array: then it is an object. -/
theorem Record.ofValue?_eq_some_iff {layout : Layout} {value : Value} {record : Record}
    (noArray : ∀ items, value ≠ .array items) :
    ofValue? layout value = some record ↔
      ∃ members, value = .object (named members) ∧ record.Holds layout.names members := by
  cases value with
  | object raw => simp [ofValue?, ofMembers?_eq_some_iff]
  | array items => exact absurd rfl (noArray items)
  | _ => simp [ofValue?]

/-- What a member gives depends on what its values say and on whether there is one. -/
theorem Gives.congr {members other : List (String × Value)} {name : String}
    {reads : Value -> α -> Prop} {absent? : Option α} {result : α}
    (gives : Gives members name reads absent? result)
    (values : ∀ value, (name, value) ∈ members -> reads value result ->
      ∃ instead, (name, instead) ∈ other ∧ reads instead result)
    (without : name ∉ members.map Prod.fst -> name ∉ other.map Prod.fst) :
    Gives other name reads absent? result := by
  cases gives with
  | given value member read =>
    obtain ⟨instead, there, read⟩ := values value member read
    exact .given instead there read
  | absent none usual => exact .absent (without none) usual

/-- Whether two objects are the same to whoever looks for these names: apart from the members of
other names, one is the other in some order. -/
def Alike (names : List String) (members other : List (String × Value)) : Prop :=
  (members.filter fun member => names.contains member.1).Perm
    (other.filter fun member => names.contains member.1)

/-- An object that is described by its members is described by others that are described alike. -/
theorem IsObject.imp {describes : List (String × Value) -> α -> Prop}
    {members other : List (String × Value)} {result : α}
    (isObject : IsObject describes (.object (named members)) result)
    (alike : describes members result -> describes other result) :
    IsObject describes (.object (named other)) result := by
  generalize same : Value.object (named members) = value at isObject
  obtain ⟨same', described⟩ := isObject
  obtain rfl := named_injective (Value.object.inj same)
  exact .members other (alike described)

namespace Alike

variable {names : List String} {members other : List (String × Value)}

theorem symm (alike : Alike names members other) : Alike names other members :=
  List.Perm.symm alike

/-- The known members are the same. -/
theorem mem_iff (alike : Alike names members other) {name : String} (known : name ∈ names)
    (value : Value) : (name, value) ∈ members ↔ (name, value) ∈ other := by
  have same := List.Perm.mem_iff alike (a := (name, value))
  simpa [known] using same

theorem once (alike : Alike names members other) (once : Once names members) :
    Once names other :=
  nodup_known_iff.mp ((List.Perm.map Prod.fst alike).nodup_iff.mp (nodup_known_iff.mpr once))

theorem gives (alike : Alike names members other) {name : String} (known : name ∈ names)
    {reads : Value -> α -> Prop} {absent? : Option α} {result : α}
    (gives : Gives members name reads absent? result) : Gives other name reads absent? result := by
  refine gives.congr (fun value member read => ⟨value, (alike.mem_iff known value).mp member, read⟩)
    ?_
  intro none there
  obtain ⟨⟨_, value⟩, member, rfl⟩ := List.mem_map.mp there
  exact none (List.mem_map_of_mem ((alike.mem_iff known value).mpr member))

end Alike

end StrategyHost.Json
