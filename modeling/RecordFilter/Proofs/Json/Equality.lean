import Mathlib.Data.List.Forall2
import RecordFilter.Json.Order
import RecordFilter.Proofs.Json.UniqueKeys
import RecordFilter.Proofs.Number.Rank

/-!
# Equality of values

Objects are compared from one side only: they have the same number of members, and each member of
the first has an equal one in the second.  Where keys are not repeated this pairs off the members of
both, so equality is an equivalence, and a congruence for everything that contains a value.
-/

namespace RecordFilter
namespace Json

/-!
# Equal parts

Two values are equal if they are built alike from equal parts.
-/

inductive Matches : Json → Json → Prop where
  | null : Matches .null .null
  | bool (value : Bool) : Matches (.bool value) (.bool value)
  | number {m n : Number} : m.compare n = .eq → Matches (.number m) (.number n)
  | string (value : String) : Matches (.string value) (.string value)
  | array {as bs : List Json} :
      List.Forall₂ (fun a b => a.equal b = true) as bs → Matches (.array as) (.array bs)
  | object {as bs : Members} : as.length = bs.length →
      (∀ member ∈ as, ∃ b, bs.lookup member.1 = some b ∧ member.2.equal b = true) →
      Matches (.object as) (.object bs)

theorem equalItems_iff {as bs : List Json} :
    equalItems as bs = true ↔ List.Forall₂ (fun a b => a.equal b = true) as bs := by
  induction as generalizing bs with
  | nil =>
      cases bs with
      | nil => simp [equalItems]
      | cons b bs => simp [equalItems]
  | cons a as ih =>
      cases bs with
      | nil => simp [equalItems]
      | cons b bs => rw [equalItems, Bool.and_eq_true, ih, List.forall₂_cons]

theorem equalMembers_iff {as bs : Members} :
    equalMembers as bs = true ↔
      ∀ member ∈ as, ∃ b, bs.lookup member.1 = some b ∧ member.2.equal b = true := by
  induction as with
  | nil => simp [equalMembers]
  | cons member as ih =>
      rw [equalMembers, Bool.and_eq_true, ih, List.forall_mem_cons]
      cases bs.lookup member.1 <;> simp

theorem equal_iff_matches {a b : Json} : a.equal b = true ↔ Matches a b := by
  constructor
  · intro h
    unfold equal at h
    split at h
    · exact .null
    · rw [eq_of_beq h]
      exact .bool _
    · exact .number (eq_of_beq h)
    · rw [eq_of_beq h]
      exact .string _
    · exact .array (equalItems_iff.mp h)
    · rw [Bool.and_eq_true] at h
      exact .object (eq_of_beq h.1) (equalMembers_iff.mp h.2)
    · cases h
  · intro h
    cases h with
    | null => rw [equal]
    | bool value => rw [equal, beq_self_eq_true]
    | number hcompare => rw [equal, hcompare, beq_self_eq_true]
    | string value => rw [equal, beq_self_eq_true]
    | array hitems => rw [equal, equalItems_iff.mpr hitems]
    | object hlength hmembers =>
        rw [equal, hlength, beq_self_eq_true, equalMembers_iff.mpr hmembers, Bool.and_true]

/-- With keys that are not repeated, a member is found wherever it stands. -/
theorem equal_object {as bs : Members} (hbs : (bs.map Prod.fst).Nodup)
    (hlength : as.length = bs.length)
    (h : ∀ member ∈ as, ∃ b, (member.1, b) ∈ bs ∧ member.2.equal b = true) :
    (object as).equal (object bs) = true := by
  refine equal_iff_matches.mpr (.object hlength ?_)
  intro member hmem
  rcases h member hmem with ⟨b, hb, hequal⟩
  exact ⟨b, (Members.lookup_eq_some_iff_mem hbs).mpr hb, hequal⟩

/-!
# Equivalence
-/

theorem UniqueKeys.equal_refl {a : Json} (h : a.UniqueKeys) : a.equal a = true := by
  induction h with
  | null => exact equal_iff_matches.mpr .null
  | bool value => exact equal_iff_matches.mpr (.bool value)
  | number value => exact equal_iff_matches.mpr (.number Std.ReflCmp.compare_self)
  | string value => exact equal_iff_matches.mpr (.string value)
  | array _ ih => exact equal_iff_matches.mpr (.array (List.forall₂_same.mpr ih))
  | object hkeys _ ih =>
      exact equal_object hkeys rfl fun member hmem => ⟨member.2, hmem, ih member hmem⟩

theorem UniqueKeys.equal_symm {a b : Json} (ha : a.UniqueKeys) (h : a.equal b = true) :
    b.equal a = true := by
  induction ha generalizing b with
  | null | bool | string =>
      cases equal_iff_matches.mp h
      exact h
  | number m =>
      cases equal_iff_matches.mp h with
      | number hcompare => exact equal_iff_matches.mpr (.number (Std.OrientedCmp.eq_symm hcompare))
  | array _ ih =>
      cases equal_iff_matches.mp h with
      | array hitems =>
          have hpairs := (List.forall₂_and_left _ _).mpr ⟨ih, hitems⟩
          exact equal_iff_matches.mpr (.array (hpairs.imp fun _ _ hpair => hpair.1 hpair.2).flip)
  | object hkeys _ ih =>
      cases equal_iff_matches.mp h with
      | object hlength hmembers =>
          have hperm := Members.keys_perm hkeys hlength fun member hmem =>
            (hmembers member hmem).imp fun _ hfound => hfound.1
          refine equal_object hkeys hlength.symm ?_
          rintro ⟨key, b⟩ hb
          rcases List.mem_map.mp (hperm.mem_iff.mpr (List.mem_map_of_mem hb)) with
            ⟨⟨_, a⟩, ha, rfl⟩
          rcases hmembers _ ha with ⟨b', hlookup, hequal⟩
          have hsame := (Members.lookup_eq_some_iff_mem (hperm.nodup hkeys)).mpr hb
          rw [hlookup, Option.some_inj] at hsame
          subst hsame
          exact ⟨a, ha, ih _ ha hequal⟩

theorem UniqueKeys.equal_trans {a b c : Json} (ha : a.UniqueKeys) (hab : a.equal b = true)
    (hbc : b.equal c = true) : a.equal c = true := by
  induction ha generalizing b c with
  | null | bool | string =>
      cases equal_iff_matches.mp hab
      exact hbc
  | number m =>
      cases equal_iff_matches.mp hab with
      | number hmn =>
          cases equal_iff_matches.mp hbc with
          | number hnk => exact equal_iff_matches.mpr (.number (Std.TransCmp.eq_trans hmn hnk))
  | array _ ih =>
      cases equal_iff_matches.mp hab with
      | array habs =>
          cases equal_iff_matches.mp hbc with
          | array hbcs =>
              rw [List.forall₂_iff_get] at habs hbcs
              refine equal_iff_matches.mpr (.array (List.forall₂_iff_get.mpr ?_))
              refine ⟨habs.1.trans hbcs.1, ?_⟩
              intro i hi hk
              have hj := hi
              rw [habs.1] at hj
              exact ih _ (List.get_mem _ _) (habs.2 i hi hj) (hbcs.2 i hj hk)
  | object hkeys _ ih =>
      cases equal_iff_matches.mp hab with
      | object hablength habs =>
          cases equal_iff_matches.mp hbc with
          | object hbclength hbcs =>
              refine equal_iff_matches.mpr (.object (hablength.trans hbclength) ?_)
              intro member hmem
              rcases habs member hmem with ⟨b, hb, hequal⟩
              rcases hbcs _ (Members.mem_of_lookup hb) with ⟨c, hc, hequal'⟩
              exact ⟨c, hc, ih member hmem hequal hequal'⟩

/-!
# Objects
-/

theorem equal_object_iff {as bs : Members} (has : (as.map Prod.fst).Nodup)
    (hbs : (bs.map Prod.fst).Nodup) :
    (object as).equal (object bs) = true ↔
      (∀ key, key ∈ as.map Prod.fst ↔ key ∈ bs.map Prod.fst) ∧
        ∀ key a b, (key, a) ∈ as → (key, b) ∈ bs → a.equal b = true := by
  constructor
  · intro h
    cases equal_iff_matches.mp h with
    | object hlength hmembers =>
        have hperm := Members.keys_perm has hlength fun member hmem =>
          (hmembers member hmem).imp fun _ hfound => hfound.1
        refine ⟨fun key => hperm.mem_iff, ?_⟩
        intro key a b ha hb
        rcases hmembers _ ha with ⟨b', hlookup, hequal⟩
        rw [(Members.lookup_eq_some_iff_mem hbs).mpr hb, Option.some_inj] at hlookup
        rw [hlookup]
        exact hequal
  · rintro ⟨hkeys, hvalues⟩
    have hperm := (List.perm_ext_iff_of_nodup has hbs).mpr hkeys
    have hlength := hperm.length_eq
    rw [List.length_map, List.length_map] at hlength
    refine equal_object hbs hlength ?_
    rintro ⟨key, a⟩ ha
    rcases List.mem_map.mp ((hkeys key).mp (List.mem_map_of_mem ha)) with ⟨⟨_, b⟩, hb, rfl⟩
    exact ⟨b, hb, hvalues _ a b ha hb⟩

/-!
# Congruence
-/

/-- A value with a gap in it. -/
inductive Context where
  | gap
  | item (before : List Json) (inner : Context) (after : List Json)
  | member (before : Members) (key : String) (inner : Context) (after : Members)

/-- The value with the gap filled. -/
def Context.fill (value : Json) : Context → Json
  | gap => value
  | item before inner after => .array (before ++ inner.fill value :: after)
  | member before key inner after => .object (before ++ (key, inner.fill value) :: after)

theorem Context.equal_fill {a b : Json} (context : Context) (h : (context.fill a).UniqueKeys)
    (hequal : a.equal b = true) : (context.fill a).equal (context.fill b) = true := by
  induction context with
  | gap => exact hequal
  | item before inner after ih =>
      cases h with
      | array hitems =>
          have hinner := ih (hitems _ (List.mem_append_right _ List.mem_cons_self))
          have hbefore : List.Forall₂ (fun a b => a.equal b = true) before before :=
            List.forall₂_same.mpr fun item hmem =>
              (hitems item (List.mem_append_left _ hmem)).equal_refl
          have hafter : List.Forall₂ (fun a b => a.equal b = true) after after :=
            List.forall₂_same.mpr fun item hmem =>
              (hitems item (List.mem_append_right _ (List.mem_cons_of_mem _ hmem))).equal_refl
          exact equal_iff_matches.mpr (.array (List.rel_append hbefore (.cons hinner hafter)))
  | member before key inner after ih =>
      cases h with
      | object hkeys hmembers =>
          have hinner := ih (hmembers _ (List.mem_append_right _ List.mem_cons_self))
          have hkeys' : ((before ++ (key, inner.fill b) :: after).map Prod.fst).Nodup := by
            rw [List.map_append, List.map_cons] at hkeys ⊢
            exact hkeys
          refine equal_object hkeys' (by simp) ?_
          intro member hmem
          have hself := (hmembers member hmem).equal_refl
          rcases List.mem_append.mp hmem with hbefore | hrest
          · exact ⟨member.2, List.mem_append_left _ hbefore, hself⟩
          · rcases List.mem_cons.mp hrest with rfl | hafter
            · exact ⟨inner.fill b, List.mem_append_right _ List.mem_cons_self, hinner⟩
            · exact ⟨member.2, List.mem_append_right _ (List.mem_cons_of_mem _ hafter), hself⟩

/-!
# Equality as an equivalence
-/

/--
On values whose objects do not repeat keys, equality is an equivalence, equal values may stand for
each other anywhere inside another value, and objects are equal exactly if they have the same keys
with equal values.  All records that are read are such values.
-/
theorem equal_equivalence :
    (∀ a : Json, a.UniqueKeys → a.equal a = true) ∧
    (∀ a b : Json, a.UniqueKeys → a.equal b = true → b.equal a = true) ∧
    (∀ a b c : Json, a.UniqueKeys → a.equal b = true → b.equal c = true → a.equal c = true) ∧
    (∀ (context : Context) (a b : Json), (context.fill a).UniqueKeys → a.equal b = true →
      (context.fill a).equal (context.fill b) = true) ∧
    (∀ as bs : Members, (object as).UniqueKeys → (object bs).UniqueKeys →
      ((object as).equal (object bs) = true ↔
        (∀ key, key ∈ as.map Prod.fst ↔ key ∈ bs.map Prod.fst) ∧
          ∀ key a b, (key, a) ∈ as → (key, b) ∈ bs → a.equal b = true)) ∧
    (∀ text records, readRecords text = .ok records → ∀ record ∈ records, record.UniqueKeys) := by
  refine ⟨fun _ h => h.equal_refl, fun _ _ ha => ha.equal_symm, fun _ _ _ ha => ha.equal_trans,
    fun context _ _ => context.equal_fill, ?objects, fun _ _ => uniqueKeys_of_readRecords⟩
  case objects =>
      intro as bs has hbs
      cases has with
      | object haskeys _ =>
          cases hbs with
          | object hbskeys _ => exact equal_object_iff haskeys hbskeys

def wholeFour : Json :=
  .number (.integer 4 (by decide))

def floatFour : Json :=
  .number (.float ⟨false, ⟨0x10000000000000, -50⟩, by decide⟩)

theorem equal_equivalence_reordered :
    (object [("a", wholeFour), ("b", .null)]).UniqueKeys ∧
    (object [("a", wholeFour), ("b", .null)]).equal (object [("b", .null), ("a", floatFour)]) = true ∧
    (object [("b", .null), ("a", floatFour)]).equal (object [("a", wholeFour), ("b", .null)]) = true ∧
    (object [("a", wholeFour), ("b", .null)]).equal (object [("a", wholeFour), ("b", .null)]) = true ∧
    (array [.null, object [("a", wholeFour), ("b", .null)]]).equal
      (array [.null, object [("b", .null), ("a", floatFour)]]) = true ∧
    wholeFour.equal floatFour = true := by
  rcases equal_equivalence with ⟨-, hsymm, htrans, hcongr, hobjects, -⟩
  have hwhole : (object [("a", wholeFour), ("b", .null)]).UniqueKeys := by
    refine .object (by decide) ?_
    simp [wholeFour, UniqueKeys.number, UniqueKeys.null]
  have hfloat : (object [("b", .null), ("a", floatFour)]).UniqueKeys := by
    refine .object (by decide) ?_
    simp [floatFour, UniqueKeys.number, UniqueKeys.null]
  have hequal : (object [("a", wholeFour), ("b", .null)]).equal
      (object [("b", .null), ("a", floatFour)]) = true := by
    decide +kernel
  have hback := hsymm _ _ hwhole hequal
  have hlist : (array [.null, object [("a", wholeFour), ("b", .null)]]).UniqueKeys := by
    refine .array ?_
    simp [hwhole, UniqueKeys.null]
  exact ⟨hwhole, hequal, hback, htrans _ _ _ hwhole hequal hback,
    hcongr (.item [.null] .gap []) _ _ hlist hequal,
    ((hobjects _ _ hwhole hfloat).mp hequal).2 "a" _ _ (by simp) (by simp)⟩

end Json
end RecordFilter
