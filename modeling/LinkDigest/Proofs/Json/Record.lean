import LinkDigest.Proofs.Json.Value
import LinkDigest.Proofs.Lists
import LinkDigest.Json.Record
import Mathlib.Data.List.Perm.Basic

/-!
# Objects that write some fields of a record

An object writes the fields one chooses, in any order, under any spelling of their names, and
among members with other names. Each of these fields is read as it is written, and each of the
others as absent.
-/

namespace LinkDigest.Json

/-- A field of a record: its name, and the values that write what it holds. -/
structure Field where
  name : String
  IsWritten : Json → Prop

/-- A member that writes a field, under any spelling of its name. -/
def Field.IsMember (field : Field) (member : List Char × Json) : Prop :=
  Spells member.1 field.name.toList ∧ field.IsWritten member.2

/-- A member with a name of its own. -/
def HasOtherName (names : List String) (member : List Char × Json) : Prop :=
  ∃ name, Spells member.1 name ∧ String.ofList name ∉ names

/-- The object writes just the chosen ones of the fields; what its other members hold does not
matter. -/
inductive WritesFields (fields : List Field) (chosen : String → Bool) : Json → Prop where
  | object {members written others : List (List Char × Json)}
      (hwritten : List.Forall₂ Field.IsMember (fields.filter fun field => chosen field.name)
        written)
      (hothers : ∀ member ∈ others, HasOtherName (fields.map Field.name) member)
      (hmembers : members.Perm (written ++ others)) : WritesFields fields chosen (.object members)

/-- What is read of a field: the value that writes it if it is chosen. -/
def Field.IsRead (chosen : String → Bool) (field : Field) (value : Option Json) : Prop :=
  if chosen field.name then ∃ held, value = some held ∧ field.IsWritten held else value = none

/-! ## Members by their names -/

/-- A member with the name its key spells. -/
def named (member : List Char × Json) : List Char × Json :=
  ((unescape? member.1).getD [], member.2)

theorem named_of_spells {member : List Char × Json} {name : List Char}
    (h : Spells member.1 name) : named member = (name, member.2) := by
  rw [named, unescape?_of_spells h, Option.getD_some]

theorem namedMembers?_eq {members : List (List Char × Json)}
    (h : ∀ member ∈ members, ∃ name, Spells member.1 name) :
    namedMembers? members = some (members.map named) := by
  rw [namedMembers?, mapM_eq_some_iff, List.forall₂_map_right_iff, List.forall₂_same]
  intro member hmember
  obtain ⟨name, hname⟩ := h member hmember
  simp [unescape?_of_spells hname, named]

/-- The members of a name. -/
def membersOf (name : String) (members : List (List Char × Json)) : List (List Char × Json) :=
  (members.map named).filter fun member => member.1 == name.toList

theorem membersOf_append (name : String) (members others : List (List Char × Json)) :
    membersOf name (members ++ others) = membersOf name members ++ membersOf name others := by
  rw [membersOf, List.map_append, List.filter_append]
  rfl

theorem membersOf_singleton {member : List Char × Json} {name : String}
    (h : Spells member.1 name.toList) : membersOf name [member] = [(name.toList, member.2)] := by
  simp [membersOf, named_of_spells h]

theorem membersOf_eq_nil {members : List (List Char × Json)} {name : String}
    (h : ∀ member ∈ members, HasOtherName [name] member) : membersOf name members = [] := by
  refine List.filter_eq_nil_iff.mpr (List.forall_mem_map.mpr fun member hmember heq => ?_)
  obtain ⟨other, hother, hne⟩ := h member hmember
  rw [named_of_spells hother, beq_iff_eq] at heq
  obtain rfl : other = name.toList := heq
  exact hne (by simp)

variable {fields : List Field} {written members : List (List Char × Json)}

theorem hasOtherName_of_isMember (h : List.Forall₂ Field.IsMember fields written) {name : String}
    (hname : name ∉ fields.map Field.name) : ∀ member ∈ written, HasOtherName [name] member := by
  induction h with
  | nil => simp
  | cons hmember hrest ih =>
    rw [List.map_cons, List.mem_cons, not_or] at hname
    refine List.forall_mem_cons.mpr ⟨⟨_, hmember.1, ?_⟩, ih hname.2⟩
    rw [String.ofList_toList]
    simpa using Ne.symm hname.1

theorem exists_spells (h : List.Forall₂ Field.IsMember fields written) :
    ∀ member ∈ written, ∃ name, Spells member.1 name := by
  induction h with
  | nil => simp
  | cons hmember hrest ih => exact List.forall_mem_cons.mpr ⟨⟨_, hmember.1⟩, ih⟩

/-- A field is written by one member if the names differ. -/
theorem exists_membersOf (h : List.Forall₂ Field.IsMember fields written)
    (hnames : (fields.map Field.name).Nodup) {field : Field} (hfield : field ∈ fields) :
    ∃ held, field.IsWritten held ∧ membersOf field.name written = [(field.name.toList, held)] := by
  induction h with
  | nil => cases hfield
  | @cons first member fields written hmember hrest ih =>
    obtain ⟨hfirst, hnames⟩ := List.nodup_cons.mp hnames
    rw [← List.singleton_append, membersOf_append]
    rcases List.mem_cons.mp hfield with rfl | hfield
    · have hnone := membersOf_eq_nil (hasOtherName_of_isMember hrest hfirst)
      rw [membersOf_singleton hmember.1, hnone]
      exact ⟨member.2, hmember.2, rfl⟩
    · have hother : HasOtherName [field.name] member := by
        refine ⟨_, hmember.1, ?_⟩
        rw [String.ofList_toList, List.mem_singleton]
        exact fun heq => hfirst (heq ▸ List.mem_map_of_mem hfield)
      rw [membersOf_eq_nil (by simpa using hother), List.nil_append]
      exact ih hnames hfield

/-! ## Reading the fields -/

theorem member?_eq {members : List (List Char × Json)} {name : String} :
    member? (members.map named) name =
      match membersOf name members with
      | [] => some none
      | [member] => some (some member.2)
      | _ => none := rfl

/-- A chosen field is read as it is written, another one as absent. -/
theorem exists_member? {others : List (List Char × Json)} {chosen : String → Bool}
    (hwritten : List.Forall₂ Field.IsMember (fields.filter fun field => chosen field.name) written)
    (hothers : ∀ member ∈ others, HasOtherName (fields.map Field.name) member)
    (hmembers : members.Perm (written ++ others)) (hnames : (fields.map Field.name).Nodup)
    {field : Field} (hfield : field ∈ fields) :
    ∃ value, member? (members.map named) field.name = some value ∧ field.IsRead chosen value := by
  -- of the name there are only members that write fields, in whatever order
  have hnone : membersOf field.name others = [] := membersOf_eq_nil fun member hmember => by
    obtain ⟨name, hname, hother⟩ := hothers member hmember
    refine ⟨name, hname, fun heq => hother ?_⟩
    rw [List.mem_singleton.mp heq]
    exact List.mem_map_of_mem hfield
  have hperm : (membersOf field.name members).Perm (membersOf field.name written) := by
    have hall := (hmembers.map named).filter fun member => member.1 == field.name.toList
    change (membersOf _ _).Perm (membersOf _ _) at hall
    rwa [membersOf_append, hnone, List.append_nil] at hall
  rw [member?_eq]
  by_cases hchosen : chosen field.name
  · have hdistinct : ((fields.filter fun f => chosen f.name).map Field.name).Nodup :=
      hnames.sublist (List.filter_sublist.map Field.name)
    obtain ⟨held, hheld, hone⟩ :=
      exists_membersOf hwritten hdistinct (List.mem_filter.mpr ⟨hfield, hchosen⟩)
    rw [hone, List.perm_singleton] at hperm
    rw [hperm]
    exact ⟨some held, rfl, by simp [Field.IsRead, hchosen, hheld]⟩
  -- a field that is not chosen has a name that no written member has
  · have hmissing : field.name ∉ (fields.filter fun f => chosen f.name).map Field.name := by
      rw [List.mem_map]
      rintro ⟨other, hother, heq⟩
      exact hchosen (heq ▸ (List.mem_filter.mp hother).2)
    rw [membersOf_eq_nil (hasOtherName_of_isMember hwritten hmissing), List.perm_nil] at hperm
    rw [hperm]
    exact ⟨none, rfl, by simp [Field.IsRead, hchosen]⟩

/-- Of an object that writes the chosen fields, these are read and no others. -/
theorem exists_fields? {chosen : String → Bool} {v : Json} (h : WritesFields fields chosen v)
    {names : List String} (hfields : fields.map Field.name = names) (hnames : names.Nodup) :
    ∃ values, fields? names v = some values ∧
      List.Forall₂ (Field.IsRead chosen) fields values := by
  subst hfields
  obtain @⟨members, written, others, hwritten, hothers, hmembers⟩ := h
  have hspelled : ∀ member ∈ members, ∃ name, Spells member.1 name := by
    intro member hmember
    rcases List.mem_append.mp (hmembers.mem_iff.mp hmember) with hmem | hmem
    · exact exists_spells hwritten member hmem
    · exact (hothers member hmem).imp fun _ hname => hname.1
  obtain ⟨values, hvalues⟩ := exists_forall₂ fun field hfield =>
    exists_member? hwritten hothers hmembers hnames hfield
  refine ⟨values, ?_, hvalues.imp fun _ _ hvalue => hvalue.2⟩
  rw [fields?, namedMembers?_eq hspelled, Option.bind_eq_bind, Option.bind_some,
    mapM_eq_some_iff, List.forall₂_map_left_iff]
  exact hvalues.imp fun _ _ hvalue => hvalue.1

section

variable {α : Type} {chosen : String → Bool} {name : String} {value : Option Json} {x : α}
  {read : Json → Option α}

/-- A field that may be absent is read as what it holds if it is chosen. -/
theorem orDefault_of_isRead {IsWritten : Json → Prop}
    (h : Field.IsRead chosen ⟨name, IsWritten⟩ value)
    (hread : ∀ held, IsWritten held → read held = some x) (default : α) :
    orDefault default read value = some (if chosen name then x else default) := by
  unfold Field.IsRead at h
  split at h
  · obtain ⟨held, rfl, hheld⟩ := h
    rw [orDefault, hread held hheld, if_pos ‹_›]
  · rw [h, orDefault, if_neg ‹_›]

theorem orDefault_of_eq {held : Json} (h : Field.IsRead chosen ⟨name, (· = held)⟩ value)
    (hread : read held = some x) (default : α) :
    orDefault default read value = some (if chosen name then x else default) :=
  orDefault_of_isRead h (fun _ heq => heq ▸ hread) default

end

theorem string?_of_spells {raw : List Char} {text : String} (h : Spells raw text.toList) :
    string? (.string raw) = some text := by
  rw [string?, text?, unescape?_of_spells h, Option.map_some, String.ofList_toList]

/-! ## Writing fields -/

/-- A field under its name. -/
def Field.IsNamed (field : Field) (member : String × Json) : Prop :=
  field.name = member.1 ∧ field.IsWritten member.2

theorem writesFields_ofMembers {chosen : String → Bool}
    {all written others : List (String × Json)}
    (hwritten : List.Forall₂ Field.IsNamed (fields.filter fun field => chosen field.name) written)
    (hothers : ∀ member ∈ others, member.1 ∉ fields.map Field.name)
    (hall : all.Perm (written ++ others)) : WritesFields fields chosen (ofMembers all) := by
  refine .object ?_ ?_ (by rw [← List.map_append]; exact hall.map _)
  · refine List.forall₂_map_right_iff.mpr (hwritten.imp fun field member hmember => ⟨?_, hmember.2⟩)
    rw [hmember.1]
    exact spells_escape _
  · refine List.forall_mem_map.mpr fun member hmember => ⟨_, spells_escape _, ?_⟩
    rw [String.ofList_toList]
    exact hothers member hmember

/-- The chosen members of a record, in their order. -/
def partOf (chosen : String → Bool) (members : List (String × Json)) : Json :=
  ofMembers (members.filter fun member => chosen member.1)

theorem writesFields_partOf {all : List (String × Json)}
    (h : List.Forall₂ Field.IsNamed fields all) (chosen : String → Bool) :
    WritesFields fields chosen (partOf chosen all) := by
  have hchosen : List.Forall₂ Field.IsNamed (fields.filter fun field => chosen field.name)
      (all.filter fun member => chosen member.1) := by
    induction h with
    | nil => exact .nil
    | cons hmember hrest ih =>
      rw [List.filter_cons, List.filter_cons, hmember.1]
      split
      · exact .cons hmember ih
      · exact ih
  exact writesFields_ofMembers hchosen (List.forall_mem_nil _) (by rw [List.append_nil])

theorem isFormed_partOf {all : List (String × Json)} (h : ∀ member ∈ all, member.2.IsFormed)
    (chosen : String → Bool) : (partOf chosen all).IsFormed :=
  isFormed_ofMembers fun member hmember => h member (List.mem_of_mem_filter hmember)

end LinkDigest.Json
