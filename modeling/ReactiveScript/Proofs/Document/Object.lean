import Mathlib.Data.List.Nodup
import ReactiveScript.Json.Document

/-! # The members of an object

Objects are maps that a library keeps. All that is asked of one is that a name stands for the
document it was last set to, and stands once (`KeepsMembers`). Then members whose names are
different are all kept, in whatever order (`KeepsMembers.perm_setMembers`), and each of them is
found under its name (`member?_eq_some_iff`). The maps that the interpreter runs with do what is
asked (`insertMember_keepsMembers`), and besides they have their members in ascending order of the
names (`insertMember_keepsOrder`). -/

namespace ReactiveScript

namespace Document

variable {name : String} {value : Document} {members : List (String × Document)} {set : Setting}

/-! ## Members under their names -/

/-- Members in strictly ascending order of their names. -/
def Ascending (members : List (String × Document)) : Prop :=
  members.Pairwise fun member other => member.1 < other.1

/-- Members with different names. -/
def Apart (members : List (String × Document)) : Prop :=
  members.Pairwise fun member other => member.1 ≠ other.1

/-- Names in ascending order are different. -/
theorem Ascending.apart (h : Ascending members) : Apart members := by
  refine h.imp fun {member other} less same => ?_
  rw [same] at less
  exact String.lt_irrefl other.1 less

/-- Members with different names are different. -/
theorem Apart.nodup (apart : Apart members) : members.Nodup :=
  apart.imp fun different same => different (congrArg Prod.fst same)

/-- What is found under a name is the document of a member. -/
theorem mem_of_member? (found : member? name members = some value) : (name, value) ∈ members := by
  induction members with
  | nil => cases found
  | cons first rest ih =>
    rw [member?] at found
    split at found
    · rename_i same
      cases found
      rw [same]
      exact List.mem_cons_self
    · exact List.mem_cons_of_mem _ (ih found)

/-- A member is found under its name if it alone has it. -/
theorem member?_of_mem (apart : Apart members) (mem : (name, value) ∈ members) :
    member? name members = some value := by
  induction members with
  | nil => cases mem
  | cons first rest ih =>
    obtain ⟨different, apart⟩ := List.pairwise_cons.mp apart
    rcases List.mem_cons.mp mem with rfl | mem
    · rw [member?, if_pos rfl]
    · rw [member?, if_neg (different _ mem).symm]
      exact ih apart mem

/-- **Members with different names are what is found under them.** -/
theorem member?_eq_some_iff (apart : Apart members) :
    member? name members = some value ↔ (name, value) ∈ members :=
  ⟨mem_of_member?, member?_of_mem apart⟩

/-- A name that is not found among some members is looked for among the others. -/
theorem member?_append (name : String) (members others : List (String × Document)) :
    member? name (members ++ others) = (member? name members).or (member? name others) := by
  induction members with
  | nil => rfl
  | cons first rest ih =>
    rw [List.cons_append, member?, member?, ih]
    split <;> rfl

/-! ## What is asked of objects -/

/-- **An object that keeps its members**: a name stands for the document it was last set to, other
names stand for what they did, and no name of an object stands twice. -/
structure KeepsMembers (set : Setting) : Prop where
  /-- Setting puts the document under the name, and leaves the other names alone. -/
  member? : ∀ name other value members, member? other (set name value members) =
    if other = name then some value else member? other members
  /-- What is set member by member has every name once. -/
  apart : ∀ members, Apart (setMembers set [] members)

/-- **An object that keeps the order** of the names. -/
def KeepsOrder (set : Setting) : Prop :=
  ∀ name value members, Ascending members → Ascending (set name value members)

/-- Members set in order have their names in order. -/
theorem KeepsOrder.setMembers (keeps : KeepsOrder set) {before : List (String × Document)}
    (h : Ascending before) (members : List (String × Document)) :
    Ascending (setMembers set before members) := by
  induction members generalizing before with
  | nil => exact h
  | cons member members ih => exact ih (keeps member.1 member.2 before h)

namespace KeepsMembers

/-- The last of the members with a name is found under it, or what was there before. -/
theorem member?_setMembers (keeps : KeepsMembers set) (name : String)
    (before members : List (String × Document)) :
    Document.member? name (setMembers set before members) =
      (Document.member? name members.reverse).or (Document.member? name before) := by
  induction members generalizing before with
  | nil => rfl
  | cons member members ih =>
    have step : setMembers set before (member :: members) =
        setMembers set (set member.1 member.2 before) members := rfl
    rw [step, ih, List.reverse_cons, member?_append, Option.or_assoc, keeps.member?]
    congr 1
    rw [Document.member?]
    split <;> rfl

/-- **No member is lost** where all have different names. -/
theorem perm_setMembers (keeps : KeepsMembers set) (apart : Apart members) :
    (setMembers set [] members).Perm members := by
  have kept := keeps.apart members
  have apart' : Apart members.reverse := List.pairwise_reverse.mpr (apart.imp Ne.symm)
  refine (List.perm_ext_iff_of_nodup kept.nodup apart.nodup).mpr fun ⟨name, value⟩ => ?_
  rw [← member?_eq_some_iff kept, keeps.member?_setMembers, Document.member?, Option.or_none,
    member?_eq_some_iff apart', List.mem_reverse]

end KeepsMembers

/-! ## Members in ascending order -/

/-- Setting a member adds nothing else. -/
theorem mem_insertMember {member : String × Document}
    (mem : member ∈ insertMember name value members) :
    member = (name, value) ∨ member ∈ members := by
  induction members with
  | nil => exact .inl (List.mem_singleton.mp mem)
  | cons first rest ih =>
    rw [insertMember] at mem
    split at mem
    · exact (List.mem_cons.mp mem).imp id (List.mem_cons_of_mem _)
    · split at mem
      · exact List.mem_cons.mp mem
      · rcases List.mem_cons.mp mem with rfl | mem
        · exact .inr List.mem_cons_self
        · exact (ih mem).imp id (List.mem_cons_of_mem _)

/-- **The members that the interpreter keeps stand in ascending order of their names.** -/
theorem insertMember_keepsOrder : KeepsOrder insertMember := by
  intro name value members h
  induction members with
  | nil => exact List.pairwise_singleton _ _
  | cons first rest ih =>
    obtain ⟨below, rest'⟩ := List.pairwise_cons.mp h
    rw [insertMember]
    split
    · rename_i same
      subst same
      exact List.pairwise_cons.mpr ⟨below, rest'⟩
    · split
      · -- The new name stands before the first one, and so before all others.
        rename_i before
        refine List.pairwise_cons.mpr ⟨fun member mem => ?_, h⟩
        rcases List.mem_cons.mp mem with rfl | mem
        · exact before
        · exact String.lt_trans before (below member mem)
      · rename_i different notBefore
        refine List.pairwise_cons.mpr ⟨fun member mem => ?_, ih rest'⟩
        rcases mem_insertMember mem with rfl | mem
        · refine Decidable.byContradiction fun notBehind => different ?_
          exact String.le_antisymm (String.not_lt.mp notBehind) (String.not_lt.mp notBefore)
        · exact below member mem

/-- A name stands for what it was last set to, and the other names are left alone. -/
theorem member?_insertMember (name other : String) (value : Document)
    (members : List (String × Document)) :
    member? other (insertMember name value members) =
      if other = name then some value else member? other members := by
  induction members with
  | nil => simp [insertMember, member?]
  | cons entry rest ih =>
    obtain ⟨key, old⟩ := entry
    unfold insertMember
    by_cases here : name = key
    · subst here
      by_cases h : other = name <;> simp [member?, h]
    · rw [if_neg here]
      split
      · by_cases h : other = name <;> simp [member?, h]
      · by_cases h : other = key
        · subst h
          simp [member?, Ne.symm here]
        · simpa [member?, h] using ih

/-- **The maps that the interpreter runs with keep their members.** -/
theorem insertMember_keepsMembers : KeepsMembers insertMember where
  member? := member?_insertMember
  apart members := (insertMember_keepsOrder.setMembers .nil members).apart

end Document

end ReactiveScript
