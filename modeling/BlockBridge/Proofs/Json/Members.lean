import BlockBridge.Json.Tree

/-!
# Members of an object by name

What the reader of a record finds in an object under one name (`Json.lookup`).  The
order of the members does not matter to it, and neither do members of other names
(`Json.Padded`).  Values that are given in order are found under the names in the same
order (`Json.fields?_zip`).
-/

namespace BlockBridge
namespace Json

/-- What an object's members give for a name: the value of the only member of that name,
no value if there is none, and nothing at all if there are several. -/
def lookup (name : String) (members : List (Literal × Json)) : Option (Option Json) :=
  match members.filter (·.1 = some name) with
  | [] => some none
  | [member] => some (some member.2)
  | _ => none

/-- Whether every key of an object can be read. -/
def Legible (members : List (Literal × Json)) : Bool :=
  members.all (·.1.isSome)

/-- The same members with others in between, whose keys can be read and are none of the
given names. -/
inductive Padded (names : List String) : List (Literal × Json) → List (Literal × Json) → Prop
  | nil : Padded names [] []
  | kept {members padded : List (Literal × Json)} (member : Literal × Json) :
      Padded names members padded → Padded names (member :: members) (member :: padded)
  | put {members padded : List (Literal × Json)} {key : String} (value : Json) :
      key ∉ names → Padded names members padded →
        Padded names members ((some key, value) :: padded)

theorem fields?_object (names : List String) (members : List (Literal × Json)) :
    (object members).fields? names =
      if Legible members then names.mapM (lookup · members) else none := rfl

/-! ## One name -/

theorem lookup_cons_of_ne {name : String} {member : Literal × Json} (h : member.1 ≠ some name)
    (members : List (Literal × Json)) : lookup name (member :: members) = lookup name members := by
  simp only [lookup, List.filter_cons, h, decide_false, Bool.false_eq_true, if_false]

theorem filter_of_absent {name : String} {members : List (Literal × Json)}
    (h : some name ∉ members.map Prod.fst) : members.filter (·.1 = some name) = [] := by
  simp only [List.filter_eq_nil_iff, decide_eq_true_eq]
  intro member hmember heq
  exact h (heq ▸ List.mem_map_of_mem hmember)

theorem lookup_of_absent {name : String} {members : List (Literal × Json)}
    (h : some name ∉ members.map Prod.fst) : lookup name members = some none := by
  rw [lookup, filter_of_absent h]

theorem lookup_cons_self {name : String} (value : Json) {members : List (Literal × Json)}
    (h : some name ∉ members.map Prod.fst) :
    lookup name ((some name, value) :: members) = some (some value) := by
  simp only [lookup, List.filter_cons, decide_true, if_true, filter_of_absent h]

theorem lookup_of_perm {members others : List (Literal × Json)} (h : members.Perm others)
    (name : String) : lookup name members = lookup name others := by
  have hfilter := h.filter (·.1 = some name)
  unfold lookup
  split
  · rename_i hnone
    rw [hnone] at hfilter
    rw [hfilter.nil_eq.symm]
  · rename_i member hone
    rw [hone] at hfilter
    rw [List.perm_singleton.mp hfilter.symm]
  · -- Several members stay several members.
    rename_i hnone hone
    split
    · rename_i hnil
      rw [hnil] at hfilter
      exact absurd hfilter.eq_nil hnone
    · rename_i member hsingle
      rw [hsingle] at hfilter
      exact absurd (List.perm_singleton.mp hfilter) (hone member)
    · rfl

theorem lookup_of_repeated {name : String} {members : List (Literal × Json)}
    (h : 2 ≤ (members.map Prod.fst).count (some name)) : lookup name members = none := by
  have hlength : (members.filter (·.1 = some name)).length =
      (members.map Prod.fst).count (some name) := by
    rw [List.count, List.countP_map, List.countP_eq_length_filter]
    exact congrArg List.length (List.filter_congr fun _ _ => Bool.eq_iff_iff.mpr (by simp))
  unfold lookup
  split
  · rename_i hnone
    rw [hnone, List.length_nil] at hlength
    omega
  · rename_i hone
    rw [hone, List.length_singleton] at hlength
    omega
  · rfl

theorem Padded.lookup_eq {names : List String} {members padded : List (Literal × Json)}
    (h : Padded names members padded) {name : String} (hname : name ∈ names) :
    lookup name padded = lookup name members := by
  have hfilter : padded.filter (·.1 = some name) = members.filter (·.1 = some name) := by
    induction h with
    | nil => rfl
    | kept member _ ih => rw [List.filter_cons, List.filter_cons, ih]
    | @put _ _ key value hkey _ ih =>
      have hne : some key ≠ some name := fun heq => hkey ((Option.some.inj heq).symm ▸ hname)
      simp only [List.filter_cons, hne, decide_false, Bool.false_eq_true, if_false, ih]
  rw [lookup, lookup, hfilter]

theorem Padded.legible_eq {names : List String} {members padded : List (Literal × Json)}
    (h : Padded names members padded) : Legible padded = Legible members := by
  induction h with
  | nil => rfl
  | kept member _ ih => simp only [Legible, List.all_cons] at ih ⊢; rw [ih]
  | put value _ _ ih => simpa [Legible] using ih

/-! ## All names -/

theorem mapM_congr {α β : Type} {f g : α → Option β} {l : List α} (h : ∀ a ∈ l, f a = g a) :
    l.mapM f = l.mapM g := by
  induction l with
  | nil => rfl
  | cons a l ih =>
    obtain ⟨hhead, htail⟩ := List.forall_mem_cons.mp h
    rw [List.mapM_cons, List.mapM_cons, hhead, ih htail]

theorem mapM_eq_none {α β : Type} {f : α → Option β} {l : List α} {a : α} (ha : a ∈ l)
    (h : f a = none) : l.mapM f = none := by
  induction l with
  | nil => cases ha
  | cons b l ih =>
    rw [List.mapM_cons]
    rcases List.mem_cons.mp ha with rfl | ha
    · rw [h]
      rfl
    · rw [ih ha]
      cases f b <;> rfl

theorem fields?_of_repeated {names : List String} {name : String} (hname : name ∈ names)
    {members : List (Literal × Json)} (h : 2 ≤ (members.map Prod.fst).count (some name)) :
    (object members).fields? names = none := by
  rw [fields?_object, mapM_eq_none hname (lookup_of_repeated h), ite_self]

/-- Values in order are found under their names, and nothing is found under the names
that are left. -/
theorem mapM_lookup_zip {names : List String} (hnames : names.Nodup) {values : List Json}
    (hlength : values.length ≤ names.length) :
    names.mapM (lookup · (List.zip (names.map some) values)) =
      some (values.map some ++ List.replicate (names.length - values.length) none) := by
  induction names generalizing values with
  | nil =>
    obtain rfl := List.eq_nil_of_length_eq_zero (Nat.le_zero.mp hlength)
    rfl
  | cons name names ih =>
    obtain ⟨hname, hnames⟩ := List.nodup_cons.mp hnames
    cases values with
    | nil =>
      have hrest := @ih hnames [] (Nat.zero_le _)
      rw [List.zip_nil_right] at hrest ⊢
      rw [List.mapM_cons, hrest]
      rfl
    | cons value values =>
      have hlater : ∀ later ∈ names,
          lookup later (List.zip ((name :: names).map some) (value :: values)) =
            lookup later (List.zip (names.map some) values) := by
        intro later hmem
        refine lookup_cons_of_ne (fun heq => hname ?_) _
        rwa [Option.some.inj heq]
      have hhere : lookup name (List.zip ((name :: names).map some) (value :: values)) =
          some (some value) := by
        refine lookup_cons_self value fun hmem => hname ?_
        obtain ⟨⟨key, _⟩, hpair, rfl⟩ := List.mem_map.mp hmem
        obtain ⟨_, hkey, heq⟩ := List.mem_map.mp (List.of_mem_zip hpair).1
        rwa [← Option.some.inj heq]
      rw [List.mapM_cons, hhere, mapM_congr hlater, ih hnames (by simpa using hlength)]
      simp

theorem legible_zip (names : List String) (values : List Json) :
    Legible (List.zip (names.map some) values) = true := by
  refine List.all_eq_true.mpr fun pair hpair => ?_
  obtain ⟨_, _, heq⟩ := List.mem_map.mp (List.of_mem_zip hpair).1
  rw [← heq]
  rfl

/-- Values give the same fields whether they are named or stand in order. -/
theorem fields?_zip {names : List String} (hnames : names.Nodup) {values : List Json}
    (hlength : values.length ≤ names.length) :
    (object (List.zip (names.map some) values)).fields? names = (array values).fields? names := by
  rw [fields?_object, legible_zip, if_pos rfl, mapM_lookup_zip hnames hlength, fields?,
    if_pos hlength]

end Json
end BlockBridge
