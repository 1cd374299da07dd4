/-
Records whose members do not stand as they are written: in another order, among members that
are no fields, and without fields that are null and may be missing. Such a record has the same
fields. A record that has lost a field that it needs, or has a field twice, is not complete.
-/

import Enrolment.Proofs.RoundTrip

namespace Enrolment.Json

structure Schema where
  names : List String
  distinct : names.Nodup
  omittable : List String
  /-- How deep the values may nest. -/
  depth : Nat

def members : Json → List (String × Json)
  | .object members => members
  | _ => []

def named (name : String) (members : List (String × Json)) : List (String × Json) :=
  members.filter fun member => member.1 = name

/-- Members that make up the same record as the given ones. -/
inductive Arranged (schema : Schema) (own : List (String × Json)) :
    List (String × Json) → Prop
  | asWritten : Arranged schema own own
  | permuted {members others : List (String × Json)} (arranged : Arranged schema own members)
      (perm : members.Perm others) : Arranged schema own others
  | extended {members : List (String × Json)} (arranged : Arranged schema own members)
      {name : String} {value : Json} (foreign : name ∉ schema.names)
      (within : value.Within schema.depth) : Arranged schema own ((name, value) :: members)
  | shortened {members : List (String × Json)} {name : String}
      (arranged : Arranged schema own ((name, .null) :: members))
      (omittable : name ∈ schema.omittable) : Arranged schema own members

/-- Members of which one that is needed was taken away, or one that is known was repeated. -/
inductive Spoiled (schema : Schema) (own : List (String × Json)) :
    List (String × Json) → Prop
  | removed {members : List (String × Json)} {name : String} {value : Json}
      (arranged : Arranged schema own ((name, value) :: members)) (known : name ∈ schema.names)
      (needed : name ∉ schema.omittable) : Spoiled schema own members
  | repeated {members : List (String × Json)} (arranged : Arranged schema own members)
      {name : String} {value : Json} (known : name ∈ schema.names)
      (given : name ∈ members.map Prod.fst) (within : value.Within schema.depth) :
      Spoiled schema own ((name, value) :: members)
  | permuted {members others : List (String × Json)} (spoiled : Spoiled schema own members)
      (perm : members.Perm others) : Spoiled schema own others

structure Schema.Complete (schema : Schema) (members : List (String × Json)) : Prop where
  once : ∀ name ∈ schema.names, (named name members).length ≤ 1
  given : ∀ name ∈ schema.names, name ∉ schema.omittable → named name members ≠ []

/-! ### Anywhere among the members -/

section Anywhere

variable {schema : Schema} {own front back : List (String × Json)} {name : String} {value : Json}

theorem Arranged.insert (arranged : Arranged schema own (front ++ back))
    (foreign : name ∉ schema.names) (within : value.Within schema.depth) :
    Arranged schema own (front ++ (name, value) :: back) :=
  (arranged.extended foreign within).permuted List.perm_middle.symm

theorem Arranged.omit (arranged : Arranged schema own (front ++ (name, .null) :: back))
    (omittable : name ∈ schema.omittable) : Arranged schema own (front ++ back) :=
  (arranged.permuted List.perm_middle).shortened omittable

end Anywhere

/-! ### Members by name -/

section Named

variable {name other : String} {value : Json} {own members others : List (String × Json)}

theorem named_cons_self :
    named name ((name, value) :: members) = (name, value) :: named name members := by
  simp [named]

theorem named_cons_of_ne (different : other ≠ name) :
    named name ((other, value) :: members) = named name members := by
  simp [named, different]

theorem named_ne_nil_iff : named name members ≠ [] ↔ name ∈ members.map Prod.fst := by
  simp [named]

theorem member?_eq_head? :
    member? name members = (named name members).head?.map Prod.snd := by
  rw [member?, named, List.head?_filter]

theorem givenOnce_iff : givenOnce members name = true ↔ (named name members).length ≤ 1 :=
  decide_eq_true_iff

theorem eq_of_perm_of_length_le_one {α : Type} {list other : List α} (perm : list.Perm other)
    (short : list.length ≤ 1) : list = other := by
  match list with
  | [] => exact perm.nil_eq
  | [_] => exact perm.singleton_eq
  | _ :: _ :: _ => simp at short

end Named

/-! ### What became of a field -/

inductive Kept (schema : Schema) (own members : List (String × Json)) (name : String) : Prop
  | same (same : named name members = named name own)
  | omitted (omittable : name ∈ schema.omittable) (null : named name own = [(name, .null)])
      (absent : named name members = [])

inductive Flawed (omittable : List String) (members : List (String × Json)) (name : String) :
    Prop
  | missing (needed : name ∉ omittable) (absent : named name members = [])
  | repeated (again : 2 ≤ (named name members).length)

section Fields

variable {schema : Schema} {name other : String} {value : Json}
  {own members others : List (String × Json)}

theorem once_of_fits (fits : own.map Prod.fst = schema.names) (name : String) :
    (named name own).length ≤ 1 :=
  givenOnce_iff.mp (givenOnce_of_distinct (fits ▸ schema.distinct) name)

namespace Kept

theorem once (fits : own.map Prod.fst = schema.names) (kept : Kept schema own members name) :
    (named name members).length ≤ 1 := by
  cases kept with
  | same same => exact same ▸ once_of_fits fits name
  | omitted _ _ absent => simp [absent]

theorem perm (fits : own.map Prod.fst = schema.names) (kept : Kept schema own members name)
    (perm : members.Perm others) : Kept schema own others name := by
  -- what stands only once has no order
  have unmoved : named name members = named name others :=
    eq_of_perm_of_length_le_one (perm.filter _) (kept.once fits)
  cases kept with
  | same same => exact .same (unmoved ▸ same)
  | omitted omittable null absent => exact .omitted omittable null (unmoved ▸ absent)

theorem cons_iff (different : other ≠ name) :
    Kept schema own ((other, value) :: members) name ↔ Kept schema own members name := by
  have unmoved : named name ((other, value) :: members) = named name members :=
    named_cons_of_ne different
  constructor
  · intro kept
    cases kept with
    | same same => exact .same (unmoved ▸ same)
    | omitted omittable null absent => exact .omitted omittable null (unmoved ▸ absent)
  · intro kept
    cases kept with
    | same same => exact .same (unmoved.trans same)
    | omitted omittable null absent => exact .omitted omittable null (unmoved.trans absent)

/-- A field that stands in front stands nowhere else. -/
theorem tail (fits : own.map Prod.fst = schema.names)
    (kept : Kept schema own ((name, value) :: members) name) :
    named name own = [(name, value)] ∧ named name members = [] := by
  have once := kept.once fits
  rw [named_cons_self, List.length_cons] at once
  have absent : named name members = [] := List.length_eq_zero_iff.mp (by omega)
  cases kept with
  | same same =>
      rw [named_cons_self, absent] at same
      exact ⟨same.symm, absent⟩
  | omitted _ _ impossible =>
      rw [named_cons_self] at impossible
      cases impossible

theorem member?_eq (kept : Kept schema own members name) (needed : name ∉ schema.omittable) :
    member? name members = member? name own := by
  cases kept with
  | same same => rw [member?_eq_head?, member?_eq_head?, same]
  | omitted omittable => exact absurd omittable needed

/-- A missing field counts as null. -/
theorem optional_eq {α : Type} (kept : Kept schema own members name) (read : Json → Option α) :
    optional read (member? name members) = optional read (member? name own) := by
  cases kept with
  | same same => rw [member?_eq_head?, member?_eq_head?, same]
  | omitted _ null absent =>
      rw [member?_eq_head?, member?_eq_head?, null, absent]
      rfl

end Kept

theorem Arranged.kept (fits : own.map Prod.fst = schema.names)
    (arranged : Arranged schema own members) (known : name ∈ schema.names) :
    Kept schema own members name := by
  induction arranged with
  | asWritten => exact .same rfl
  | permuted _ perm ih => exact ih.perm fits perm
  | extended _ foreign _ ih =>
      exact (Kept.cons_iff (ne_of_mem_of_not_mem known foreign).symm).mpr ih
  | @shortened members left _ omittable ih =>
      by_cases different : left = name
      · -- the null that is left out was the only member with the name
        subst different
        obtain ⟨null, absent⟩ := ih.tail fits
        exact .omitted omittable null absent
      · exact (Kept.cons_iff different).mp ih

theorem Schema.Complete.not_flawed (complete : schema.Complete members)
    (known : name ∈ schema.names) : ¬ Flawed schema.omittable members name := by
  intro flawed
  cases flawed with
  | missing needed absent => exact complete.given name known needed absent
  | repeated again =>
      have once := complete.once name known
      omega

theorem Flawed.perm {omittable : List String} (flawed : Flawed omittable members name)
    (perm : members.Perm others) : Flawed omittable others name := by
  have named : (named name members).Perm (named name others) := perm.filter _
  cases flawed with
  | missing needed absent => exact .missing needed (absent ▸ named).nil_eq.symm
  | repeated again => exact .repeated (named.length_eq ▸ again)

/-- One field is flawed, and the others are as they should be. -/
theorem Spoiled.flawed (fits : own.map Prod.fst = schema.names)
    (spoiled : Spoiled schema own members) :
    ∃ name ∈ schema.names, Flawed schema.omittable members name ∧
      ∀ other ∈ schema.names, name ≠ other → Kept schema own members other := by
  induction spoiled with
  | @removed members name value arranged known needed =>
      have absent := ((arranged.kept fits known).tail fits).2
      refine ⟨name, known, .missing needed absent, ?_⟩
      intro other otherKnown different
      exact (Kept.cons_iff different).mp (arranged.kept fits otherKnown)
  | @repeated members arranged name value known given within =>
      have again : 2 ≤ (named name ((name, value) :: members)).length := by
        have some := List.length_pos_of_ne_nil (named_ne_nil_iff.mpr given)
        rw [named_cons_self, List.length_cons]
        omega
      refine ⟨name, known, .repeated again, ?_⟩
      intro other otherKnown different
      exact (Kept.cons_iff different).mpr (arranged.kept fits otherKnown)
  | permuted _ perm ih =>
      obtain ⟨name, known, flawed, others⟩ := ih
      refine ⟨name, known, flawed.perm perm, ?_⟩
      intro other otherKnown different
      exact (others other otherKnown different).perm fits perm

theorem Spoiled.not_complete (fits : own.map Prod.fst = schema.names)
    (spoiled : Spoiled schema own members) : ¬ schema.Complete members := by
  intro complete
  obtain ⟨name, known, flawed, _⟩ := spoiled.flawed fits
  exact complete.not_flawed known flawed

/-! ### Depth -/

theorem Arranged.within (shallow : ∀ member ∈ own, member.2.Within schema.depth)
    (arranged : Arranged schema own members) :
    ∀ member ∈ members, member.2.Within schema.depth := by
  induction arranged with
  | asWritten => exact shallow
  | permuted _ perm ih => exact fun member inOthers => ih member (perm.mem_iff.mpr inOthers)
  | extended _ _ within ih => exact List.forall_mem_cons.mpr ⟨within, ih⟩
  | shortened _ _ ih => exact (List.forall_mem_cons.mp ih).2

theorem Spoiled.within (shallow : ∀ member ∈ own, member.2.Within schema.depth)
    (spoiled : Spoiled schema own members) :
    ∀ member ∈ members, member.2.Within schema.depth := by
  induction spoiled with
  | removed arranged => exact (List.forall_mem_cons.mp (arranged.within shallow)).2
  | repeated arranged _ _ within =>
      exact List.forall_mem_cons.mpr ⟨within, arranged.within shallow⟩
  | permuted _ perm ih => exact fun member inOthers => ih member (perm.mem_iff.mpr inOthers)

/-! ### Reading the fields -/

theorem fields?_eq_some_iff {names : List String} {fields : List (Option Json)} :
    fields? names (.object members) = some fields ↔
      (∀ name ∈ names, (named name members).length ≤ 1) ∧
        names.map (fun name => member? name members) = fields := by
  rw [fields?]
  split
  · next once =>
      have once : ∀ name ∈ names, (named name members).length ≤ 1 := fun name inNames =>
        givenOnce_iff.mp (List.all_eq_true.mp once name inNames)
      rw [Option.some_inj]
      exact (and_iff_right once).symm
  · next notOnce =>
      constructor
      · intro found
        cases found
      · rintro ⟨once, _⟩
        exact absurd (List.all_eq_true.mpr fun name inNames =>
          givenOnce_iff.mpr (once name inNames)) notOnce

theorem named_ne_nil_of_required {α : Type} {read : Json → Option α} {result : α}
    (found : required read (member? name members) = some result) : named name members ≠ [] := by
  intro absent
  rw [member?_eq_head?, absent] at found
  cases found

namespace Arranged

variable (fits : own.map Prod.fst = schema.names) (arranged : Arranged schema own members)

include fits arranged

theorem fields?_eq {names : List String} (known : ∀ name ∈ names, name ∈ schema.names) :
    fields? names (.object members) = some (names.map fun name => member? name members) :=
  fields?_eq_some_iff.mpr
    ⟨fun name inNames => (arranged.kept fits (known name inNames)).once fits, rfl⟩

theorem member?_eq (known : name ∈ schema.names) (needed : name ∉ schema.omittable) :
    member? name members = member? name own :=
  (arranged.kept fits known).member?_eq needed

theorem optional_eq {α : Type} (known : name ∈ schema.names) (read : Json → Option α) :
    optional read (member? name members) = optional read (member? name own) :=
  (arranged.kept fits known).optional_eq read

end Arranged

end Fields

end Enrolment.Json
