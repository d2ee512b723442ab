import Mathlib.Data.List.Perm.Basic
import ModalLex.Proofs.Json.Meaning

/-!
# Members in Any Order

A record is filled member by member, in the order of the text. **If its fields do not interfere,
the order makes no difference**, and a record is what it would be if its fields were filled in
their own order with what is given for them (`fillGiven`). That a field is given at most once is
needed, as a second value would be refused. Members that are no fields do not count, except that
their names have to be texts.

An array gives the same, by position (`fillElements_eq`). So what a record is depends on nothing
but the value that is given for each field, if there is one.

## Main results

* `fillMembers_eq`: filling by the members is filling by what they give.
* `fillElements_eq`: the same for the elements of an array.
* `SameMembers.given?_eq`: objects with the same members for some names, in whatever order and
  between whatever others, give the same for them.
-/

namespace ModalLex.Json

variable {ρ : Type} {members members' : List (List Mark × Tree)} {name : String}

/-! ### What is given -/

/-- Whether a member has a name. -/
def hasName (name : String) (member : List Mark × Tree) : Bool :=
  textOf? member.1 = some name.toList

/-- The value that is given for a name: that of the first member with it. -/
def given? (members : List (List Mark × Tree)) (name : String) : Option Tree :=
  (members.find? (hasName name)).map (·.2)

/-- None of these names is given twice. -/
def AtMostOnce (names : List String) (members : List (List Mark × Tree)) : Prop :=
  ∀ name ∈ names, members.countP (hasName name) ≤ 1

instance (names : List String) : Decidable (AtMostOnce names members) :=
  List.decidableBAll _ _

/-- The names of the members stand for texts. -/
def Named (members : List (List Mark × Tree)) : Prop :=
  ∀ member ∈ members, (textOf? member.1).isSome = true

instance : Decidable (Named members) := List.decidableBAll _ _

/-- Names stand for texts if the first does and the others do. -/
theorem named_cons {member : List Mark × Tree} :
    Named (member :: members) ↔ (textOf? member.1).isSome = true ∧ Named members :=
  List.forall_mem_cons

/-- A member whose name stands for a text has the name of that text. -/
theorem hasName_iff {marks : List Mark} {key : Text} (h : textOf? marks = some key) (v : Tree)
    (name : String) : hasName name (marks, v) = true ↔ name = String.ofList key := by
  rw [hasName, decide_eq_true_eq, h, Option.some_inj]
  constructor
  · rintro rfl
    exact (String.ofList_toList).symm
  · rintro rfl
    exact (String.toList_ofList).symm

/-- The first member with a name gives the value. -/
theorem given?_cons_of_pos {member : List Mark × Tree} (h : hasName name member = true) :
    given? (member :: members) name = some member.2 := by
  rw [given?, List.find?_cons_of_pos h]
  rfl

/-- A member with another name gives nothing. -/
theorem given?_cons_of_neg {member : List Mark × Tree} (h : hasName name member = false) :
    given? (member :: members) name = given? members name := by
  rw [given?, given?, List.find?_cons_of_neg (by simp [h])]

/-- Nothing is given if the first member has another name and the others give nothing. -/
theorem given?_cons_eq_none {member : List Mark × Tree} :
    given? (member :: members) name = none ↔
      hasName name member = false ∧ given? members name = none := by
  cases h : hasName name member with
  | true => simp [given?_cons_of_pos h]
  | false => simp [given?_cons_of_neg h]

/-- A name that no member has is given no value. -/
theorem given?_eq_none (h : members.countP (hasName name) = 0) : given? members name = none := by
  rw [List.countP_eq_zero] at h
  rw [given?, List.find?_eq_none.mpr h]
  rfl

/-! ### The same members -/

/-- The same members with these names, in some order, and perhaps others between them. -/
def SameMembers (names : List String) (members members' : List (List Mark × Tree)) : Prop :=
  (members.filter fun member => names.any (hasName · member)).Perm
    (members'.filter fun member => names.any (hasName · member))

/-- A name that is given at most once is given the same by the same members. -/
theorem SameMembers.given?_eq {names : List String} (h : SameMembers names members members')
    (hname : name ∈ names) (honce : members.countP (hasName name) ≤ 1) :
    given? members name = given? members' name := by
  have hfilter (list : List (List Mark × Tree)) :
      (list.filter fun member => names.any (hasName · member)).filter (hasName name) =
        list.filter (hasName name) := by
    rw [List.filter_filter]
    refine List.filter_congr fun member _ => ?_
    rw [Bool.and_eq_left_iff_imp]
    exact fun hmember => List.any_eq_true.mpr ⟨name, hname, hmember⟩
  have hperm := h.filter (hasName name)
  rw [hfilter, hfilter] at hperm
  have hshort : (members.filter (hasName name)).length ≤ 1 := by
    rwa [← List.countP_eq_length_filter]
  have heq : members.filter (hasName name) = members'.filter (hasName name) := by
    match hmembers : members.filter (hasName name) with
    | [] =>
      rw [hmembers] at hperm
      exact hperm.symm.eq_nil.symm
    | [member] =>
      rw [hmembers] at hperm
      exact (List.perm_singleton.mp hperm.symm).symm
    | _ :: _ :: _ =>
      rw [hmembers] at hshort
      simp at hshort
  rw [given?, given?, ← List.head?_filter, ← List.head?_filter, heq]

/-! ### Fields that do not interfere -/

/-- Two fields that can be filled in either order. -/
def Filling.Commutes (f g : Filling ρ) : Prop :=
  ∀ record v w, (f.fill record v).bind (g.fill · w) = (g.fill record w).bind (f.fill · v)

/-- Fills a field with what is given for it, if anything is. -/
def Filling.fillWith (filling : Filling ρ) (given : Option Tree) (record : ρ) : Option ρ :=
  match given with
  | none => some record
  | some v => filling.fill record v

/-- Fills the fields in their order with what is given for them by position. -/
def fillGiven : List (Filling ρ) → (given : Nat → Option Tree) → ρ → Option ρ
  | [], _, record => some record
  | filling :: fillings, given, record =>
    (filling.fillWith (given 0) record).bind (fillGiven fillings fun i => given (i + 1))

variable {fillings : List (Filling ρ)} {f g : Filling ρ} {given given' : Nat → Option Tree}
  {record : ρ} {v : Tree}

/-- A record for which nothing is given stays as it is. -/
theorem fillGiven_none (h : ∀ i, given i = none) :
    fillGiven fillings given record = some record := by
  induction fillings generalizing given with
  | nil => rfl
  | cons filling fillings ih =>
      rw [fillGiven, h 0]
      exact ih fun i => h (i + 1)

/-- A field may as well be filled before another, whether that one is given or not. -/
theorem Filling.Commutes.fillWith (h : f.Commutes g) (given : Option Tree) :
    (f.fillWith given record).bind (g.fill · v) = (g.fill record v).bind (f.fillWith given ·) := by
  cases given with
  | none =>
      rw [Filling.fillWith, Option.bind_some]
      cases g.fill record v <;> rfl
  | some w => exact h record w v

/-- **One more value.** A value that is given for one more field may be filled in before all
others. -/
theorem fillGiven_first (hcommute : fillings.Pairwise Filling.Commutes) {p : Nat}
    (hf : fillings[p]? = some f) (hv : given' p = some v) (hnone : given p = none)
    (hsame : ∀ i, i ≠ p → given' i = given i) :
    fillGiven fillings given' record = (f.fill record v).bind (fillGiven fillings given) := by
  induction fillings generalizing p given given' record with
  | nil => cases hf
  | cons filling fillings ih =>
      obtain ⟨hhead, htail⟩ := List.pairwise_cons.mp hcommute
      cases p with
      | zero =>
          obtain rfl := Option.some.inj hf
          have hbehind : (fun i => given' (i + 1)) = fun i => given (i + 1) :=
            funext fun i => hsame (i + 1) (Nat.succ_ne_zero i)
          have hgiven : fillGiven (filling :: fillings) given =
              fillGiven fillings fun i => given (i + 1) := by
            funext record
            rw [fillGiven, hnone]
            rfl
          rw [fillGiven, hv, hbehind, hgiven]
          rfl
      | succ p =>
          have hmem : f ∈ fillings := List.mem_of_getElem? hf
          have hbehind : (fillGiven fillings fun i => given' (i + 1)) = fun record =>
              (f.fill record v).bind (fillGiven fillings fun i => given (i + 1)) :=
            funext fun record => ih htail hf hv hnone fun i hi => hsame (i + 1) (by omega)
          calc fillGiven (filling :: fillings) given' record
              = (filling.fillWith (given 0) record).bind fun record =>
                  (f.fill record v).bind (fillGiven fillings fun i => given (i + 1)) := by
                rw [fillGiven, hsame 0 (by omega), hbehind]
            _ = ((filling.fillWith (given 0) record).bind (f.fill · v)).bind
                  (fillGiven fillings fun i => given (i + 1)) := by
                rw [Option.bind_assoc]
            _ = (f.fill record v).bind (fillGiven (filling :: fillings) given) := by
                rw [(hhead f hmem).fillWith, Option.bind_assoc]
                rfl

/-! ### Objects -/

/-- What the members of an object give for the fields, by position. -/
def givenBy (fillings : List (Filling ρ)) (members : List (List Mark × Tree)) (i : Nat) :
    Option Tree :=
  fillings[i]?.bind fun filling => given? members filling.name

/-- A member with another name gives nothing for a field. -/
theorem givenBy_cons_of_unknown {member : List Mark × Tree}
    (h : ∀ filling ∈ fillings, hasName filling.name member = false) :
    givenBy fillings (member :: members) = givenBy fillings members := by
  funext i
  rw [givenBy, givenBy]
  cases hfilling : fillings[i]? with
  | none => rfl
  | some filling => exact given?_cons_of_neg (h filling (List.mem_of_getElem? hfilling))

/-- A member with the name of a field gives the value for that field and for no other. -/
theorem fillGiven_cons {member : List Mark × Tree} (hcommute : fillings.Pairwise Filling.Commutes)
    (hnames : (fillings.map (·.name)).Nodup) (hmem : f ∈ fillings)
    (hname : ∀ name, hasName name member = true ↔ name = f.name)
    (hnone : given? members f.name = none) :
    fillGiven fillings (givenBy fillings (member :: members)) record =
      (f.fill record member.2).bind (fillGiven fillings (givenBy fillings members)) := by
  obtain ⟨p, hp⟩ := List.mem_iff_getElem?.mp hmem
  refine fillGiven_first hcommute hp ?_ ?_ fun i hi => ?_
  · rw [givenBy, hp]
    exact given?_cons_of_pos ((hname f.name).mpr rfl)
  · rw [givenBy, hp]
    exact hnone
  · rw [givenBy, givenBy]
    cases hg : fillings[i]? with
    | none => rfl
    | some g =>
        refine given?_cons_of_neg ?_
        rw [Bool.eq_false_iff, Ne, hname]
        intro heq
        obtain ⟨hlength, -⟩ := List.getElem?_eq_some_iff.mp hg
        refine hi ((List.getElem?_inj (by simpa using hlength) hnames).mp ?_)
        rw [List.getElem?_map, List.getElem?_map, hg, hp, Option.map_some, Option.map_some, heq]

/-- **Any order.** Filling a record by the members of an object is filling its fields in order
with what the members give for them. -/
theorem fillMembers_eq {seen : List String} (hcommute : fillings.Pairwise Filling.Commutes)
    (hnames : (fillings.map (·.name)).Nodup)
    (honce : AtMostOnce (fillings.map (·.name)) members)
    (hseen : ∀ name ∈ seen, given? members name = none) :
    fillMembers fillings seen record members =
      if Named members then fillGiven fillings (givenBy fillings members) record else none := by
  induction members generalizing seen record with
  | nil =>
      have hnone (i : Nat) : givenBy fillings [] i = none := by
        rw [givenBy]
        cases fillings[i]? <;> rfl
      have hnamed : Named [] := fun member h => absurd h List.not_mem_nil
      rw [fillMembers, fillGiven_none hnone, if_pos hnamed]
  | cons member members ih =>
      obtain ⟨marks, v⟩ := member
      have honce' : AtMostOnce (fillings.map (·.name)) members := fun name hname =>
        ((List.sublist_cons_self _ _).countP_le).trans (honce name hname)
      cases hkey : textOf? marks with
      | none => rw [fillMembers_unnamed hkey, if_neg (fun h => by simp [named_cons, hkey] at h)]
      | some key =>
          have hhas := hasName_iff hkey v
          have hnamed : Named ((marks, v) :: members) ↔ Named members := by
            rw [named_cons]
            exact and_iff_right (by simp [hkey])
          simp only [hnamed]
          cases hfind : fillings.find? fun filling => filling.name = String.ofList key with
          | none =>
              have hunknown (filling : Filling ρ) (h : filling ∈ fillings) :
                  hasName filling.name (marks, v) = false := by
                have hne := List.find?_eq_none.mp hfind filling h
                rw [Bool.eq_false_iff]
                simpa [hhas] using hne
              rw [fillMembers_unknown hkey hfind, givenBy_cons_of_unknown hunknown]
              exact ih honce' fun name hname => (given?_cons_eq_none.mp (hseen name hname)).2
          | some filling =>
              have hname : filling.name = String.ofList key := by
                simpa using List.find?_some hfind
              have hmem := List.mem_of_find?_eq_some hfind
              have hhead : hasName filling.name (marks, v) = true := (hhas _).mpr hname
              have hnone : given? members filling.name = none := by
                have hcount := honce filling.name (List.mem_map_of_mem hmem)
                rw [List.countP_cons_of_pos hhead] at hcount
                exact given?_eq_none (by omega)
              have hfresh : ¬seen.contains (String.ofList key) = true := by
                intro hcontains
                have hlater := hseen _ (List.contains_iff_mem.mp hcontains)
                rw [← hname, given?_cons_of_pos hhead] at hlater
                cases hlater
              have hseen' (name : String) (h : name ∈ String.ofList key :: seen) :
                  given? members name = none := by
                rcases List.mem_cons.mp h with rfl | h
                · rwa [← hname]
                · exact (given?_cons_eq_none.mp (hseen name h)).2
              rw [fillMembers_field hkey hfind hfresh,
                fillGiven_cons hcommute hnames hmem (fun name => by rw [hhas, hname]) hnone]
              cases filling.fill record v with
              | none => simp
              | some record => exact ih honce' hseen'

/-! ### Arrays -/

/-- An array fills the fields in order, and is refused if there are not enough of them. -/
theorem fillElements_eq {elements : List Tree} :
    fillElements fillings record elements =
      if elements.length ≤ fillings.length then fillGiven fillings (elements[·]?) record
      else none := by
  induction elements generalizing fillings record with
  | nil =>
      have hnone (i : Nat) : ([] : List Tree)[i]? = none := List.getElem?_nil
      rw [fillElements, fillGiven_none hnone, if_pos (by simp)]
  | cons v elements ih =>
      cases fillings with
      | nil => rw [fillElements, if_neg (by simp)]
      | cons filling fillings =>
          have hgiven : (fun i => (v :: elements)[i + 1]?) = (elements[·]?) := rfl
          rw [fillElements, fillGiven, hgiven]
          simp only [ih, List.length_cons, Nat.add_le_add_iff_right]
          by_cases hlength : elements.length ≤ fillings.length
          · simp only [if_pos hlength]
            rfl
          · simp only [if_neg hlength]
            cases filling.fill record v <;> rfl

end ModalLex.Json
