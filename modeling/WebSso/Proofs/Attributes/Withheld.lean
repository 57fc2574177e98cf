import WebSso.Proofs.Attributes.Change
import WebSso.Resolver

/-!
# Attributes that are withheld

A release policy keeps the attributes that it allows.  What it does before that may mix an attribute
that is to be withheld with others: values are renamed into it, or it is cut short, scoped, mapped.
None of this may show in what is released, not even whether the user has the attribute at all.

The argument follows two runs of the policy on attributes that agree *but for* one name.  A filter
can take different branches in the two, and it does when it renames something to that name: where
the attribute exists the values are merged into it, and where it does not the entry takes its place.
But whatever goes into the name is out of sight from then on, so that the runs still agree but for
it — unless a filter renames it to something else, which is the one thing that must not come before
the attributes are allowed.

## What is here

* `Attributes.without`, the entries of all other names, and what each operation does to them;
* `Attributes.AgreeBut`, that two runs agree but for a name;
* `AttributeFilter.apply_agreeBut` and `applyFilters_agreeBut`: a filter keeps it, and so does a
  policy;
* `applyFilters_eq_of_withheld`: from the filter on that does not allow the name, the runs are
  equal, and `Resolver.released_eq_of_withheld`, the same for what is resolved.
-/

set_option autoImplicit false
namespace WebSso
namespace Attributes

/-! ## The entries of all other names -/

/-- The attributes without any entry of a name. -/
def without (m : Attributes) (secret : String) : Attributes :=
  ⟨m.entries.filter fun e => e.1 != secret⟩

section Without

variable {secret name : String}

/-- Another name is not the one that is hidden. -/
theorem ne_and_eq_iff (h : name ≠ secret) (e : AttributeEntry) :
    (e.1 != secret && e.1 == name) = (e.1 == name) := by
  by_cases he : e.1 = name
  · simp [he, h]
  · simp [he]

theorem get?_without (h : name ≠ secret) (m : Attributes) :
    (m.without secret).get? name = m.get? name := by
  simp only [without, get?, List.find?_filter, Bool.decide_and, Bool.decide_eq_true,
    ne_and_eq_iff h]

theorem contains_without (h : name ≠ secret) (m : Attributes) :
    (m.without secret).contains name = m.contains name := by
  simp only [without, contains, List.any_filter, ne_and_eq_iff h]

theorem without_erase (h : name ≠ secret) (m : Attributes) :
    (m.erase name).without secret = (m.without secret).erase name := by
  simp only [without, erase, List.eraseP_filter, Bool.and_comm, ne_and_eq_iff h]

theorem without_erase_self (m : Attributes) (secret : String) :
    (m.erase secret).without secret = m.without secret := by
  rcases m with ⟨entries⟩
  simp only [without, erase, mk.injEq]
  induction entries with
  | nil => rfl
  | cons e rest ih =>
    by_cases he : e.1 = secret
    · simp [he]
    · simp [he, ih]

theorem without_modify (h : name ≠ secret) (m : Attributes)
    (change : List String → List String) :
    (m.modify name change).without secret = (m.without secret).modify name change := by
  rw [without, modify, modify, without, filter_updateFirst_of_kept]
  rintro e rfl
  simp [h]

theorem without_modify_self (m : Attributes) (secret : String)
    (change : List String → List String) :
    (m.modify secret change).without secret = m.without secret := by
  rw [without, modify, without, filter_updateFirst_of_hidden]
  rintro e rfl
  simp

/-- A renaming between other names does not look at the one that is hidden. -/
theorem without_rename {source target : String} (hs : source ≠ secret) (ht : target ≠ secret)
    (m : Attributes) :
    (m.rename source target).without secret = (m.without secret).rename source target := by
  by_cases hne : source = target
  · rw [hne, rename_self, rename_self]
  have hseen := get?_without hs m
  have hheld := contains_without ht m
  cases hget : m.get? source with
  | none => rw [rename_of_absent hget, rename_of_absent (hseen.trans hget)]
  | some values =>
    cases hc : m.contains target with
    | true =>
      rw [rename_of_present hne hget hc, without_modify ht, without_erase hs,
        rename_of_present hne (hseen.trans hget) (hheld.trans hc)]
    | false =>
      rw [rename_of_free hne hget hc, rename_of_free hne (hseen.trans hget) (hheld.trans hc),
        without, filter_updateFirst_of_kept]
      · rfl
      · rintro e rfl
        simp [hs, ht]

/-- What is renamed to the hidden name is gone, whether its values are merged into an entry there
or its own entry takes the name. -/
theorem without_rename_to {source : String} (hs : source ≠ secret) (m : Attributes) :
    (m.rename source secret).without secret = (m.without secret).erase source := by
  rw [← without_erase hs]
  cases hget : m.get? source with
  | none => rw [rename_of_absent hget, erase_of_absent hget]
  | some values =>
    cases hc : m.contains secret with
    | true => rw [rename_of_present hs hget hc, without_modify_self]
    | false =>
      rw [rename_of_free hs hget hc, without_erase hs, without, filter_updateFirst_of_lost]
      · rfl
      · rintro e rfl
        simp [hs]

end Without

/-! ## Two runs -/

/-- Attributes that are the same, in the same order, but for those of one name. -/
def AgreeBut (secret : String) (a b : Attributes) : Prop := a.without secret = b.without secret

/-- Attributes that are the same once one is removed agree but for it. -/
theorem agreeBut_of_erase_eq {secret : String} {a b : Attributes}
    (h : a.erase secret = b.erase secret) : AgreeBut secret a b := by
  rw [AgreeBut, ← without_erase_self a, h, without_erase_self]

/-- Changing the values of an attribute keeps runs in agreement, whichever attribute it is. -/
theorem AgreeBut.modify {secret : String} {a b : Attributes} (h : AgreeBut secret a b)
    (name : String) (change : List String → List String) :
    AgreeBut secret (a.modify name change) (b.modify name change) := by
  rw [AgreeBut] at h ⊢
  by_cases hn : name = secret
  · rw [hn, without_modify_self, without_modify_self, h]
  · rw [without_modify hn, without_modify hn, h]

/-- Renaming an attribute they agree on keeps runs in agreement, whatever it is renamed to. -/
theorem AgreeBut.rename {secret source : String} {a b : Attributes} (h : AgreeBut secret a b)
    (hs : source ≠ secret) (target : String) :
    AgreeBut secret (a.rename source target) (b.rename source target) := by
  rw [AgreeBut] at h ⊢
  by_cases ht : target = secret
  · rw [ht, without_rename_to hs, without_rename_to hs, h]
  · rw [without_rename hs ht, without_rename hs ht, h]

end Attributes

open Attributes

namespace AttributeFilter

theorem without_apply_allow (names : List String) (m : Attributes) (secret : String) :
    ((allow names).apply m).without secret = (allow names).apply (m.without secret) := by
  simp only [apply, without, List.filter_filter, Bool.and_comm]

/-- Only what is allowed is looked at. -/
theorem apply_allow_without {names : List String} {secret : String} (h : secret ∉ names)
    (m : Attributes) : (allow names).apply (m.without secret) = (allow names).apply m := by
  simp only [apply, without, List.filter_filter, Attributes.mk.injEq]
  refine List.filter_congr fun e _ => ?_
  by_cases he : e.1 = secret
  · simp [he, h]
  · simp [he]

/-- **A filter keeps two runs in agreement**, unless it renames the attribute they do not agree
on. -/
theorem apply_agreeBut {filter : AttributeFilter} {secret : String} {a b : Attributes}
    (h : ∀ target, filter ≠ rename secret target) (hab : AgreeBut secret a b) :
    AgreeBut secret (filter.apply a) (filter.apply b) := by
  cases filter with
  | rename source target =>
    have hs : source ≠ secret := by
      rintro rfl
      exact h target rfl
    exact hab.rename hs target
  | singleValue name => exact hab.modify name _
  | scope name domain => exact hab.modify name _
  | mapValue name source target => exact hab.modify name _
  | allow names => rw [AgreeBut, without_apply_allow, without_apply_allow, hab]

end AttributeFilter

theorem applyFilters_append (first second : List AttributeFilter) (m : Attributes) :
    applyFilters (first ++ second) m = applyFilters second (applyFilters first m) :=
  List.foldl_append

/-- A policy keeps two runs in agreement if none of its filters renames the attribute they do not
agree on. -/
theorem applyFilters_agreeBut {secret : String} {filters : List AttributeFilter}
    (h : ∀ target, AttributeFilter.rename secret target ∉ filters) :
    ∀ {a b : Attributes}, AgreeBut secret a b →
      AgreeBut secret (applyFilters filters a) (applyFilters filters b) := by
  induction filters with
  | nil => exact fun hab => hab
  | cons filter rest ih =>
    intro a b hab
    have hfirst : ∀ target, filter ≠ .rename secret target := by
      rintro target rfl
      exact h target List.mem_cons_self
    have hrest : ∀ target, AttributeFilter.rename secret target ∉ rest :=
      fun target hmem => h target (List.mem_cons_of_mem _ hmem)
    exact ih hrest (AttributeFilter.apply_agreeBut hfirst hab)

/-- Once an attribute is withheld, it makes no difference to what comes after. -/
theorem applyFilters_allow_eq {secret : String} {names : List String} (h : secret ∉ names)
    {a b : Attributes} (hab : AgreeBut secret a b) (after : List AttributeFilter) :
    applyFilters (.allow names :: after) a = applyFilters (.allow names :: after) b := by
  show applyFilters after ((AttributeFilter.allow names).apply a)
    = applyFilters after ((AttributeFilter.allow names).apply b)
  rw [← AttributeFilter.apply_allow_without h a, hab, AttributeFilter.apply_allow_without h b]

/-- **What is released does not depend on what is withheld.**  A policy that at some point allows
names without an attribute among them, and does not rename that attribute before, releases the same
whatever the attribute holds and whether or not there is one. -/
theorem applyFilters_eq_of_withheld {secret : String} {names : List String}
    {before : List AttributeFilter} (hnames : secret ∉ names)
    (hbefore : ∀ target, AttributeFilter.rename secret target ∉ before) {a b : Attributes}
    (h : a.erase secret = b.erase secret) (after : List AttributeFilter) :
    applyFilters (before ++ .allow names :: after) a
      = applyFilters (before ++ .allow names :: after) b := by
  rw [applyFilters_append, applyFilters_append]
  exact applyFilters_allow_eq hnames
    (applyFilters_agreeBut hbefore (agreeBut_of_erase_eq h)) after

/-- A mail address that is merged into a withheld attribute for one user, and becomes one for the
other, who has none. -/
theorem released_without_uid :
    "uid" ∉ ["cn"] ∧
    (∀ target, AttributeFilter.rename "uid" target ∉
      [AttributeFilter.rename "mail" "uid", .singleValue "uid"]) ∧
    (Attributes.mk [("uid", ["u1"]), ("mail", ["m"]), ("cn", ["A", "B"])]).erase "uid"
      = (Attributes.mk [("mail", ["m"]), ("cn", ["A", "B"])]).erase "uid" ∧
    applyFilters ([.rename "mail" "uid", .singleValue "uid"] ++ .allow ["cn"] :: [.singleValue "cn"])
        ⟨[("uid", ["u1"]), ("mail", ["m"]), ("cn", ["A", "B"])]⟩
      = applyFilters
        ([.rename "mail" "uid", .singleValue "uid"] ++ .allow ["cn"] :: [.singleValue "cn"])
        ⟨[("mail", ["m"]), ("cn", ["A", "B"])]⟩ := by
  have hbefore : ∀ target, AttributeFilter.rename "uid" target ∉
      [AttributeFilter.rename "mail" "uid", .singleValue "uid"] := by
    simp
  exact ⟨by decide, hbefore, by decide,
    applyFilters_eq_of_withheld (by decide) hbefore (by decide) [.singleValue "cn"]⟩

/-- What is released of a user does not depend on an attribute that the policy withholds: two
directories in which users differ in nothing else release the same. -/
theorem Resolver.released_eq_of_withheld {r q : Resolver} {secret : String} {names : List String}
    {before after : List AttributeFilter} (hnames : secret ∉ names)
    (hbefore : ∀ target, AttributeFilter.rename secret target ∉ before)
    (hr : r.filters = before ++ .allow names :: after) (hq : q.filters = r.filters)
    {key other : String} {found twin : ResolvedIdentity} (hfound : r.resolve key = .ok found)
    (htwin : q.resolve other = .ok twin) (h : found.raw.erase secret = twin.raw.erase secret) :
    found.released = twin.released := by
  have hreleased : ∀ {r : Resolver} {key : String} {found : ResolvedIdentity},
      r.resolve key = .ok found → found.released = applyFilters r.filters found.raw := by
    intro r key found hfound
    rw [resolve] at hfound
    cases hrecord : r.directory.identity? key with
    | none => rw [hrecord] at hfound; cases hfound
    | some record => rw [hrecord] at hfound; cases hfound; rfl
  rw [hreleased hfound, hreleased htwin, hq, hr, applyFilters_append, applyFilters_append]
  exact applyFilters_allow_eq hnames
    (applyFilters_agreeBut hbefore (agreeBut_of_erase_eq h)) after

end WebSso
