import RecipeRunner.Document.Basic
import RecipeRunner.Proofs.Except
import Mathlib.Data.List.Nodup
/-!
# Records in documents

A record is a mapping from the names of its fields to what they hold, in which fields may be left
out.  Reading a field of a record gives what it holds, or what stands for a missing one.

* `entriesOf`, `record`: the fields that are there, and the mapping of them.
* `asFields_record`, `field_entriesOf`, `field?_entriesOf`: what is read from a record.
* `mapM_map_eq_ok`, `mapM_eq_ok`: reading lists of parts.
* `depth_lt_seq`, `depth_lt_record`: parts are less deep than what they are parts of.
-/

namespace RecipeRunner.Document

section Decoding

variable {α β γ : Type}

/-- What each item is read as is read from all of them. -/
theorem mapM_map_eq_ok {encode : α → β} {decode : β → Decoded α} {items : List α}
    (h : ∀ item ∈ items, decode (encode item) = .ok item) :
    (items.map encode).mapM decode = .ok items := by
  have hall := mapM_map_of_forall (f := id) h
  rwa [List.map_id] at hall

theorem mapM_eq_ok {decode : β → Decoded α} {parts : List β} {items : List α}
    (h : parts.mapM decode = .ok items) : ∀ item ∈ items, ∃ part, decode part = .ok item := by
  induction parts generalizing items with
  | nil =>
    cases h
    exact fun _ hitem => absurd hitem List.not_mem_nil
  | cons part rest ih =>
    rw [List.mapM_cons, bind_eq_ok] at h
    obtain ⟨first, hfirst, h⟩ := h
    obtain ⟨others, hothers, h⟩ := bind_eq_ok.1 h
    cases h
    exact List.forall_mem_cons.2 ⟨⟨part, hfirst⟩, ih hothers⟩

end Decoding

/-- The fields of a record that are there, in their order. -/
def entriesOf (slots : List (String × Option Document)) : List (String × Document) :=
  slots.filterMap fun slot => slot.2.map (Prod.mk slot.1)

/-- The mapping of the fields that are there. -/
def record (slots : List (String × Option Document)) : Document :=
  .map ((entriesOf slots).map fun entry => (.str entry.1, entry.2))

section Entries

variable {slots : List (String × Option Document)} {name : String} {d : Document}

@[simp]
theorem entriesOf_cons_some : entriesOf ((name, some d) :: slots) = (name, d) :: entriesOf slots :=
  rfl

@[simp]
theorem entriesOf_cons_none : entriesOf ((name, none) :: slots) = entriesOf slots := rfl

theorem map_fst_entriesOf_sublist (slots : List (String × Option Document)) :
    ((entriesOf slots).map Prod.fst).Sublist (slots.map Prod.fst) := by
  induction slots with
  | nil => exact .slnil
  | cons slot rest ih =>
    obtain ⟨name, _ | d⟩ := slot
    · exact ih.cons name
    · exact ih.cons_cons name

theorem mem_entriesOf : (name, d) ∈ entriesOf slots ↔ (name, some d) ∈ slots := by
  simp [entriesOf, Prod.ext_iff]

/-- A field of names that differ holds what stands at its name. -/
theorem lookup_entriesOf (hnames : (slots.map Prod.fst).Nodup) :
    (entriesOf slots).lookup name = (slots.lookup name).join := by
  induction slots with
  | nil => rfl
  | cons slot rest ih =>
    obtain ⟨other, held⟩ := slot
    obtain ⟨hother, hrest⟩ := List.nodup_cons.1 hnames
    by_cases hname : name = other
    · subst hname
      cases held with
      | some d => simp
      | none =>
        have hmissing : (entriesOf rest).lookup name = none := by
          rw [List.lookup_eq_none_iff]
          intro entry hentry
          have hmem : entry.1 ∈ rest.map Prod.fst :=
            (map_fst_entriesOf_sublist rest).subset (List.mem_map_of_mem hentry)
          exact bne_iff_ne.2 fun heq => hother (heq ▸ hmem)
        simp [hmissing]
    · have hne : (name == other) = false := beq_false_of_ne hname
      cases held <;> simp [List.lookup_cons, hne, ih hrest]

end Entries

theorem eraseDups_eq_self {names : List String} (h : names.Nodup) : names.eraseDups = names := by
  induction names with
  | nil => rfl
  | cons name rest ih =>
    obtain ⟨hname, hrest⟩ := List.nodup_cons.1 h
    have hkept : rest.filter (fun other => !other == name) = rest :=
      List.filter_eq_self.2 fun other hother => by
        simpa using fun heq : other = name => hname (heq ▸ hother)
    rw [List.eraseDups_cons, hkept, ih hrest]

section Fields

variable {fields : List (String × Document)} {name : String} {α : Type}
  {decode : Document → Decoded α}

theorem field_eq_ok {missing value : α} (h : field fields name decode missing = .ok value) :
    value = missing ∨ ∃ d, decode d = .ok value := by
  unfold field at h
  split at h
  · next d _ => exact .inr ⟨d, h⟩
  · exact .inl (Except.ok.inj h).symm

theorem field?_eq_ok {value : Option α} (h : field? fields name decode = .ok value) :
    ∀ v ∈ value, ∃ d, decode d = .ok v := by
  unfold field? at h
  split at h
  · cases h; exact fun _ hv => nomatch hv
  · next d _ _ =>
    obtain ⟨v, hv, rfl⟩ := map_eq_ok.1 h
    rintro _ ⟨⟩
    exact ⟨d, hv⟩
  · cases h; exact fun _ hv => nomatch hv

/-- All items of a list field have been read. -/
theorem forall_mem_of_field {items : List α}
    (h : field fields name (fun d => do (← d.asItems).mapM decode) [] = .ok items) :
    ∀ item ∈ items, ∃ d, decode d = .ok item := by
  obtain rfl | ⟨d, h⟩ := field_eq_ok h
  · exact fun _ hitem => absurd hitem List.not_mem_nil
  · obtain ⟨parts, -, h⟩ := bind_eq_ok.1 h
    exact mapM_eq_ok h

end Fields

section Reading

variable {slots : List (String × Option Document)} {known : List String} {name : String}
  {α : Type} {decode : Document → Decoded α} {missing : α}

/-- The fields of a record are the ones that are there, if all of them are known. -/
theorem asFields_record (hknown : slots.map Prod.fst = known) (hnames : known.Nodup) :
    (record slots).asFields known = .ok (entriesOf slots) := by
  have hsublist := map_fst_entriesOf_sublist slots
  have hnamed : ((entriesOf slots).map fun entry => (Document.str entry.1, entry.2)).mapM
      (fun entry => do return (← entry.1.asFieldName known, entry.2)) =
        (.ok (entriesOf slots) : Decoded _) :=
    mapM_map_eq_ok fun _ _ => rfl
  have hfields : (entriesOf slots).filter (fun field => known.contains field.1) =
      entriesOf slots :=
    List.filter_eq_self.2 fun entry hentry => by
      simpa [hknown] using hsublist.subset (List.mem_map_of_mem hentry)
  have honce : ((entriesOf slots).map Prod.fst).eraseDups.length = (entriesOf slots).length := by
    rw [eraseDups_eq_self (hsublist.nodup (hknown ▸ hnames)), List.length_map]
  refine bind_eq_ok.2 ⟨_, rfl, bind_eq_ok.2 ⟨_, hnamed, ?_⟩⟩
  simp only [hfields, honce, Nat.lt_irrefl, if_false]
  rfl

theorem field_entriesOf (hnames : (slots.map Prod.fst).Nodup) {held : Option Document} {value : α}
    (hheld : slots.lookup name = some held) (hvalue : held.elim (.ok missing) decode = .ok value) :
    field (entriesOf slots) name decode missing = .ok value := by
  rw [field, lookup_entriesOf hnames, hheld, ← hvalue]
  cases held <;> rfl

/-- A field that may stand for nothing gives what was written, if that is not written as nothing. -/
theorem field?_entriesOf (hnames : (slots.map Prod.fst).Nodup) {encode : α → Document}
    {value : Option α} (hheld : slots.lookup name = some (value.map encode))
    (hvalue : ∀ v ∈ value, encode v ≠ .null ∧ decode (encode v) = .ok v) :
    field? (entriesOf slots) name decode = .ok value := by
  rw [field?, lookup_entriesOf hnames, hheld]
  cases value with
  | none => rfl
  | some v =>
    obtain ⟨hnull, hdecode⟩ := hvalue v rfl
    rw [Option.map_some, Option.join_some]
    split
    · next h => exact absurd (Option.some.inj h) hnull
    · next d _ h => rw [← Option.some.inj h, hdecode]; rfl
    · next h => cases h

end Reading

section Depth

variable {d : Document}

theorem depth_lt_seq {items : List Document} (h : d ∈ items) : d.depth < (seq items).depth := by
  rw [depth, Nat.lt_succ_iff]
  induction items with
  | nil => exact absurd h List.not_mem_nil
  | cons item rest ih =>
    rw [depthOfItems]
    rcases List.mem_cons.1 h with rfl | h
    · exact Nat.le_max_left _ _
    · exact Nat.le_trans (ih h) (Nat.le_max_right _ _)

theorem depth_lt_map {entries : List (Document × Document)} {key : Document}
    (h : (key, d) ∈ entries) : d.depth < (map entries).depth := by
  rw [depth, Nat.lt_succ_iff]
  induction entries with
  | nil => exact absurd h List.not_mem_nil
  | cons entry rest ih =>
    rw [depthOfEntries]
    rcases List.mem_cons.1 h with rfl | h
    · exact Nat.le_trans (Nat.le_max_right _ _) (Nat.le_max_left _ _)
    · exact Nat.le_trans (ih h) (Nat.le_max_right _ _)

theorem depth_lt_record {slots : List (String × Option Document)} {name : String}
    (h : (name, some d) ∈ slots) : d.depth < (record slots).depth :=
  depth_lt_map (List.mem_map_of_mem (mem_entriesOf.2 h))

end Depth

end RecipeRunner.Document
