import Mathlib.Data.List.Perm.Subperm
import Mathlib.Data.String.Basic
import RecordFilter.Json.Reader

/-!
# Keys that are not repeated

Where no key is repeated, looking a key up finds the member that has it.  The members of an object
that is read are kept in the order of their keys, and a repeated key replaces the member before it,
so all records that are read are of this kind.
-/

namespace RecordFilter
namespace Json

/-- No object has two members of one key, at any depth. -/
inductive UniqueKeys : Json → Prop where
  | null : UniqueKeys .null
  | bool (value : Bool) : UniqueKeys (.bool value)
  | number (value : Number) : UniqueKeys (.number value)
  | string (value : String) : UniqueKeys (.string value)
  | array {items : List Json} : (∀ item ∈ items, UniqueKeys item) → UniqueKeys (.array items)
  | object {members : Members} :
      (members.map Prod.fst).Nodup → (∀ member ∈ members, UniqueKeys member.2) →
      UniqueKeys (.object members)

/-!
# Looking keys up
-/

namespace Members

theorem mem_of_lookup {members : Members} {key : String} {value : Json}
    (h : members.lookup key = some value) : (key, value) ∈ members := by
  rcases List.lookup_eq_some_iff.mp h with ⟨before, after, rfl, -⟩
  exact List.mem_append_right _ List.mem_cons_self

theorem lookup_eq_some_iff_mem {members : Members} (h : (members.map Prod.fst).Nodup)
    {key : String} {value : Json} :
    members.lookup key = some value ↔ (key, value) ∈ members := by
  constructor
  · exact mem_of_lookup
  · intro hmem
    rcases List.append_of_mem hmem with ⟨before, after, rfl⟩
    refine List.lookup_eq_some_iff.mpr ⟨before, after, rfl, ?_⟩
    intro member hbefore
    rw [List.map_append, List.map_cons] at h
    have hapart := (List.nodup_append.mp h).2.2 member.1 (List.mem_map_of_mem hbefore) key
      List.mem_cons_self
    exact bne_iff_ne.mpr hapart.symm

/-- Among as many members, keys that are all found are all the keys there are. -/
theorem keys_perm {as bs : Members} (h : (as.map Prod.fst).Nodup) (hlength : as.length = bs.length)
    (hfound : ∀ member ∈ as, ∃ value, bs.lookup member.1 = some value) :
    (as.map Prod.fst).Perm (bs.map Prod.fst) := by
  have hsubset : as.map Prod.fst ⊆ bs.map Prod.fst := by
    intro key hkey
    rcases List.mem_map.mp hkey with ⟨member, hmem, rfl⟩
    rcases hfound member hmem with ⟨value, hvalue⟩
    exact List.mem_map.mpr ⟨_, mem_of_lookup hvalue, rfl⟩
  apply (h.subperm hsubset).perm_of_length_le
  rw [List.length_map, List.length_map, hlength]

/-!
# Members in order
-/

theorem mem_insert {members : Members} {key : String} {value : Json} {member : String × Json}
    (h : member ∈ members.insert key value) : member = (key, value) ∨ member ∈ members := by
  induction members with
  | nil =>
      exact Or.inl (List.mem_singleton.mp h)
  | cons first members ih =>
      rw [insert] at h
      split at h
      · exact List.mem_cons.mp h
      · split at h
        · rcases List.mem_cons.mp h with hnew | hrest
          · exact Or.inl hnew
          · exact Or.inr (List.mem_cons_of_mem _ hrest)
        · rcases List.mem_cons.mp h with hfirst | hrest
          · exact Or.inr (List.mem_cons.mpr (Or.inl hfirst))
          · exact (ih hrest).imp_right (List.mem_cons_of_mem _)

/-- Strictly in the order of their keys. -/
def Sorted (members : Members) : Prop :=
  members.Pairwise fun a b => a.1 < b.1

theorem Sorted.insert {members : Members} (h : members.Sorted) (key : String) (value : Json) :
    (members.insert key value).Sorted := by
  induction members with
  | nil =>
      exact List.pairwise_singleton _ _
  | cons first members ih =>
      rcases List.pairwise_cons.mp h with ⟨hfirst, hrest⟩
      rw [Members.insert]
      split
      · next hbefore =>
          refine List.pairwise_cons.mpr ⟨?_, h⟩
          intro member hmem
          rcases List.mem_cons.mp hmem with rfl | hmem
          · exact hbefore
          · exact lt_trans hbefore (hfirst member hmem)
      · next hnotBefore =>
          split
          · next hsame =>
              subst hsame
              exact List.pairwise_cons.mpr ⟨hfirst, hrest⟩
          · next hdifferent =>
              refine List.pairwise_cons.mpr ⟨?_, ih hrest⟩
              intro member hmem
              rcases mem_insert hmem with rfl | hmem
              · exact lt_of_le_of_ne (not_lt.mp hnotBefore) (Ne.symm hdifferent)
              · exact hfirst member hmem

theorem Sorted.nodup {members : Members} (h : members.Sorted) : (members.map Prod.fst).Nodup :=
  List.pairwise_map.mpr (h.imp fun hlt => ne_of_lt hlt)

theorem sorted_ofList (written : List (String × Json)) : (ofList written).Sorted :=
  List.foldlRecOn written _ List.Pairwise.nil fun _ hsorted _ _ => hsorted.insert _ _

theorem mem_of_mem_ofList {written : List (String × Json)} :
    ∀ member ∈ ofList written, member ∈ written := by
  unfold ofList
  apply List.foldlRecOn (motive := fun members => ∀ member ∈ members, member ∈ written) written
  · exact List.forall_mem_nil _
  intro members hmembers new hnew member hmem
  rcases mem_insert hmem with rfl | hold
  · exact hnew
  · exact hmembers member hold

end Members

/-!
# Readers
-/

/-- Whatever the reader returns has the property. -/
def Yields {α : Type} (reader : Reader α) (P : α → Prop) : Prop :=
  ∀ text value rest, reader text = .ok (value, rest) → P value

theorem of_bind_eq_ok {ε α β : Type} {first : Except ε α} {next : α → Except ε β} {result : β}
    (h : (first >>= next) = .ok result) : ∃ value, first = .ok value ∧ next value = .ok result := by
  cases first with
  | error e => cases h
  | ok value => exact ⟨value, rfl, h⟩

section Items

variable {item : Reader Json} (hitem : Yields item UniqueKeys)
include hitem

theorem yields_readItems (rounds : Nat) :
    Yields (readItems item rounds) fun items => ∀ value ∈ items, value.UniqueKeys := by
  induction rounds with
  | zero =>
      intro text items rest h
      cases h
  | succ rounds ih =>
      intro text items rest h
      rw [readItems] at h
      rcases of_bind_eq_ok h with ⟨⟨first, after⟩, hfirst, hnext⟩
      have hunique := hitem _ _ _ hfirst
      simp only at hnext
      split at hnext
      · cases hnext
      · split at hnext
        · cases hnext
          exact List.forall_mem_singleton.mpr hunique
        · split at hnext
          · rcases of_bind_eq_ok hnext with ⟨⟨others, after⟩, hothers, hreturn⟩
            cases hreturn
            exact List.forall_mem_cons.mpr ⟨hunique, ih _ _ _ hothers⟩
          · cases hnext

theorem yields_readMembers (rounds : Nat) :
    Yields (readMembers item rounds) fun written => ∀ member ∈ written, member.2.UniqueKeys := by
  induction rounds with
  | zero =>
      intro text written rest h
      cases h
  | succ rounds ih =>
      intro text written rest h
      rw [readMembers] at h
      rcases of_bind_eq_ok h with ⟨⟨key, afterKey⟩, -, hcolon⟩
      rcases of_bind_eq_ok hcolon with ⟨afterColon, -, hvalue⟩
      rcases of_bind_eq_ok hvalue with ⟨⟨value, after⟩, hread, hnext⟩
      have hunique := hitem _ _ _ hread
      simp only at hnext
      split at hnext
      · cases hnext
      · split at hnext
        · cases hnext
          exact List.forall_mem_singleton.mpr hunique
        · split at hnext
          · rcases of_bind_eq_ok hnext with ⟨⟨others, after⟩, hothers, hreturn⟩
            cases hreturn
            exact List.forall_mem_cons.mpr ⟨hunique, ih _ _ _ hothers⟩
          · cases hnext

theorem yields_readArray : Yields (readArray item) UniqueKeys := by
  intro text value rest h
  unfold readArray at h
  split at h
  · cases h
  · split at h
    · cases h
      exact .array (List.forall_mem_nil _)
    · rcases of_bind_eq_ok h with ⟨⟨items, after⟩, hitems, hreturn⟩
      cases hreturn
      exact .array (yields_readItems hitem _ _ _ _ hitems)

theorem yields_readObject : Yields (readObject item) UniqueKeys := by
  intro text value rest h
  unfold readObject at h
  split at h
  · cases h
  · split at h
    · cases h
      exact .object List.nodup_nil (List.forall_mem_nil _)
    · rcases of_bind_eq_ok h with ⟨⟨written, after⟩, hwritten, hreturn⟩
      cases hreturn
      have hunique := yields_readMembers hitem _ _ _ _ hwritten
      exact .object (Members.sorted_ofList written).nodup fun member hmem =>
        hunique member (Members.mem_of_mem_ofList member hmem)

end Items

theorem yields_readWord {value : Json} (hvalue : value.UniqueKeys) (word : List Char) :
    Yields (readWord value word) UniqueKeys := by
  intro text result rest h
  induction word generalizing text with
  | nil =>
      cases h
      exact hvalue
  | cons c word ih =>
      cases text with
      | nil => cases h
      | cons d text =>
          rw [readWord] at h
          split at h
          · exact ih text h
          · cases h

theorem yields_readWith {array object : Reader Json} (harray : Yields array UniqueKeys)
    (hobject : Yields object UniqueKeys) : Yields (readWith array object) UniqueKeys := by
  intro text value rest h
  unfold readWith at h
  split at h
  · cases h
  · split at h
    · rcases of_bind_eq_ok h with ⟨⟨content, after⟩, -, hreturn⟩
      cases hreturn
      exact .string content
    · split at h
      · rcases of_bind_eq_ok h with ⟨⟨number, after⟩, -, hreturn⟩
        cases hreturn
        exact .number number
      · split at h
        · exact yields_readWord .null _ _ _ _ h
        · split at h
          · exact yields_readWord (.bool true) _ _ _ _ h
          · split at h
            · exact yields_readWord (.bool false) _ _ _ _ h
            · split at h
              · exact harray _ _ _ h
              · split at h
                · exact hobject _ _ _ h
                · cases h

theorem yields_readNested (depth : Nat) : Yields (readNested depth) UniqueKeys := by
  induction depth with
  | zero => exact yields_readWith (fun _ _ _ h => nomatch h) (fun _ _ _ h => nomatch h)
  | succ depth ih => exact yields_readWith (yields_readArray ih) (yields_readObject ih)

/-!
# Records that are read
-/

theorem uniqueKeys_of_readRecord {text rest : List Char} {value : Json}
    (h : readRecord text = .ok (value, rest)) : value.UniqueKeys := by
  unfold readRecord at h
  rcases of_bind_eq_ok h with ⟨⟨result, after⟩, hread, hreturn⟩
  have hunique := yields_readNested maxDepth _ _ _ hread
  simp only at hreturn
  split at hreturn
  · cases hreturn
    exact hunique
  · cases hreturn

theorem uniqueKeys_of_readRecords {text : List Char} {records : List Json}
    (h : readRecords text = .ok records) : ∀ record ∈ records, record.UniqueKeys := by
  have hwithin : ∀ rounds text records, readRecordsWithin rounds text = .ok records →
      ∀ record ∈ records, record.UniqueKeys := by
    intro rounds
    induction rounds with
    | zero =>
        intro text records h
        cases h
        exact List.forall_mem_nil _
    | succ rounds ih =>
        intro text records h
        rw [readRecordsWithin] at h
        split at h
        · cases h
          exact List.forall_mem_nil _
        · rcases of_bind_eq_ok h with ⟨⟨record, rest⟩, hrecord, hmore⟩
          rcases of_bind_eq_ok hmore with ⟨others, hothers, hreturn⟩
          cases hreturn
          exact List.forall_mem_cons.mpr ⟨uniqueKeys_of_readRecord hrecord, ih _ _ hothers⟩
  exact hwithin _ _ _ h

end Json
end RecordFilter
