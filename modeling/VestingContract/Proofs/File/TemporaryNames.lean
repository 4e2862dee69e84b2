import VestingContract.Proofs.File.Replacing

/-!
# Names of temporary files

The temporary names of a target differ in their tags only, and all tags are
eight bytes long.  So the system takes all of them or none, and a search that
tries every tag finds a name that is free as soon as there is one.
-/

namespace VestingContract

theorem Utf8.firstSurrogates?_eq_none_iff (text : Text) :
    firstSurrogates? text = none ↔
      ∀ point ∈ text, ∃ char, point = .scalar char := by
  unfold firstSurrogates?
  induction text with
  | nil => simp
  | cons point text ih =>
      cases point with
      | scalar char =>
          rw [List.forall_mem_cons, ← ih]
          simp only [List.dropWhile_cons, if_true]
          split <;> simp
      | surrogate offset => simp

namespace PathName

section Appending

theorem byteSize_append (first second : Text) :
    byteSize (first ++ second) = byteSize first + byteSize second := by
  induction second using List.reverseRecOn with
  | nil => rw [List.append_nil]; rfl
  | append_singleton second point ih =>
      rw [← List.append_assoc]
      unfold byteSize at ih ⊢
      rw [List.foldl_append, ih, List.foldl_append]
      cases point <;> exact Nat.add_assoc _ _ _

theorem check_append (first second : Text) :
    check (first ++ second) = .ok () ↔
      check first = .ok () ∧ check second = .ok () := by
  have taken : ∀ text : Text, check text = .ok () ↔
      (∀ point ∈ text, ∃ char, (if isEscapedByte point then .scalar '?'
        else point) = CodePoint.scalar char) ∧
      .scalar '\x00' ∉ text := by
    intro text
    rw [← List.forall_mem_map (f := fun point : CodePoint =>
      if isEscapedByte point then .scalar '?' else point)
      (P := fun point => ∃ char, point = CodePoint.scalar char),
      ← Utf8.firstSurrogates?_eq_none_iff]
    unfold check
    split
    · next faulty => simp [faulty]
    · next scalars =>
        by_cases nullByte : .scalar '\x00' ∈ text <;> simp [nullByte, scalars]
  rw [taken, taken, taken, List.forall_mem_append, List.mem_append, not_or]
  exact and_and_and_comm

theorem exists_join_concat (separator : Text) (parts : List Text) :
    ∃ before, ∀ part,
      Text.join separator (parts ++ [part]) = before ++ part := by
  unfold Text.join
  induction parts with
  | nil => exact ⟨[], fun part => List.intercalate_singleton⟩
  | cons first parts ih =>
      obtain ⟨before, joined⟩ := ih
      refine ⟨first ++ separator ++ before, fun part => ?_⟩
      rw [List.cons_append, List.intercalate_cons_of_ne_nil (by simp), joined]
      simp only [List.append_assoc]

/-- The spelling of a name behind the root ends in the name. -/
theorem exists_toText_child (directory : PathName)
    (absolute : directory.slashes ≠ 0) :
    ∃ before, ∀ name, (directory.child name).toText = before ++ name := by
  obtain ⟨before, joined⟩ := exists_join_concat "/" directory.names
  refine ⟨List.replicate directory.slashes (.scalar '/') ++ before,
    fun name => ?_⟩
  have nonempty : List.replicate directory.slashes (CodePoint.scalar '/') ++
      Text.join "/" (directory.names ++ [name]) ≠ [] := by
    simp [absolute]
  rw [joined] at nonempty
  rw [toText]
  simp only [child, joined, List.isEmpty_iff, if_neg nonempty,
    List.append_assoc]

end Appending

end PathName

namespace FileAction

section Tags

/-- The digits of a number are those of its remainder, as far as this one
reaches. -/
theorem div_mod_congr {place : Nat} (small : place < 8) (number : Nat) :
    number % tagCount / raise 37 place % 37 =
      number / raise 37 place % 37 := by
  have split : tagCount = raise 37 place * (37 * raise 37 (7 - place)) := by
    simp only [tagCount, raise, Nat.pow_eq]
    rw [← Nat.pow_succ', ← Nat.pow_add]
    congr 1
    omega
  rw [split, Nat.mod_mul_right_div_self,
    Nat.mod_mod_of_dvd _ (Nat.dvd_mul_right 37 _)]

theorem tag_congr {first second : Nat}
    (same : first % tagCount = second % tagCount) : tag first = tag second := by
  unfold tag
  refine congrArg Text.ofChars (List.map_congr_left fun place member => ?_)
  have small := List.mem_range.mp member
  rw [← div_mod_congr small first, ← div_mod_congr small second, same]

/-- A tag is made of eight letters and digits, each one byte long and taken by
the system. -/
theorem exists_tag_chars (number : Nat) :
    ∃ chars, tag number = Text.ofChars chars ∧ chars.length = 8 ∧
      ∀ char ∈ chars, char.utf8Size = 1 ∧
        PathName.check [.scalar char] = .ok () := by
  refine ⟨_, rfl, by rw [List.length_map, List.length_range], ?_⟩
  have letters : ∀ char ∈ "abcdefghijklmnopqrstuvwxyz0123456789_".toList,
      char.utf8Size = 1 ∧ PathName.check [.scalar char] = .ok () := by
    have all : "abcdefghijklmnopqrstuvwxyz0123456789_".toList.all
        (fun char => char.utf8Size = 1 ∧
          PathName.check [.scalar char] = .ok ()) = true := by
      decide
    exact fun char member =>
      of_decide_eq_true (List.all_eq_true.mp all char member)
  rw [List.forall_mem_map]
  intro place _
  apply letters
  generalize number / raise 37 place % 37 = index
  cases found : "abcdefghijklmnopqrstuvwxyz0123456789_".toList[index]? with
  | none => decide
  | some char => exact List.mem_of_getElem? found

theorem byteSize_tag (number : Nat) : PathName.byteSize (tag number) = 8 := by
  obtain ⟨chars, tagEq, length, letters⟩ := exists_tag_chars number
  rw [tagEq, ← length]
  clear tagEq length
  induction chars with
  | nil => rfl
  | cons char chars ih =>
      obtain ⟨first, others⟩ := List.forall_mem_cons.mp letters
      have single : PathName.byteSize [.scalar char] = 1 :=
        (Nat.zero_add _).trans first.1
      have split : Text.ofChars (char :: chars) =
        [.scalar char] ++ Text.ofChars chars := rfl
      rw [split, PathName.byteSize_append, single, ih others,
        List.length_cons, Nat.add_comm]

theorem check_tag (number : Nat) :
    PathName.check (tag number) = .ok () := by
  obtain ⟨chars, tagEq, -, letters⟩ := exists_tag_chars number
  rw [tagEq]
  clear tagEq
  induction chars with
  | nil => rfl
  | cons char chars ih =>
      obtain ⟨first, others⟩ := List.forall_mem_cons.mp letters
      exact (PathName.check_append [.scalar char] _).mpr
        ⟨first.2, ih others⟩

/-- The names of two temporary files of a target are alike but for their
tags, so a path to one of them is as long as a path to the other. -/
theorem byteSize_temporaryName (before target : Text) (first second : Nat) :
    PathName.byteSize (before ++ temporaryName target first) =
      PathName.byteSize (before ++ temporaryName target second) := by
  simp only [temporaryName, PathName.byteSize_append, byteSize_tag]

theorem check_temporaryName (before target : Text) (first second : Nat) :
    PathName.check (before ++ temporaryName target first) = .ok () ↔
      PathName.check (before ++ temporaryName target second) = .ok () := by
  simp only [temporaryName, PathName.check_append, check_tag]

theorem temporaryName_ne_upward (target : Text) (number : Nat) :
    temporaryName target number ≠ ".." := by
  intro same
  have sizes := congrArg PathName.byteSize same
  simp only [temporaryName, PathName.byteSize_append, byteSize_tag] at sizes
  have upward : PathName.byteSize ".." = 2 := by decide
  omega

end Tags

section Search

open Stateful

variable {tree : FileTree} {target : PathName} {directory : List Text}

/-- The temporary files of a target stand in a directory, whatever their
tags. -/
structure TakesTemporary (target : PathName) (tree : FileTree)
    (directory : List Text) : Prop where
  valid : ∀ number, PathName.check ((tree.absolute target.parent).child
    (temporaryName target.name number)).toText = .ok ()
  leads : ∀ number, tree.Leads ((tree.absolute target.parent).child
    (temporaryName target.name number)) directory
      (temporaryName target.name number)

theorem takesTemporary_of_leads {number : Nat}
    (valid : PathName.check ((tree.absolute target.parent).child
      (temporaryName target.name number)).toText = .ok ())
    (leads : tree.Leads ((tree.absolute target.parent).child
      (temporaryName target.name number)) directory
        (temporaryName target.name number)) :
    TakesTemporary target tree directory := by
  have isAbsolute : (tree.absolute target.parent).slashes ≠ 0 := by
    change max target.parent.slashes 1 ≠ 0
    omega
  obtain ⟨before, spelled⟩ := PathName.exists_toText_child
    (tree.absolute target.parent) isAbsolute
  constructor
  · intro other
    rw [spelled] at valid ⊢
    exact (check_temporaryName before target.name number other).mp valid
  · intro other
    obtain ⟨above, namesEq, walked⟩ := leads.walked
    have aboveEq := (List.append_inj' namesEq rfl).1
    refine ⟨?_, ?_, temporaryName_ne_upward target.name other,
      _, rfl, aboveEq ▸ walked⟩
    · rw [spelled, byteSize_temporaryName before target.name other number,
        ← spelled]
      exact leads.short
    · have sizes := byteSize_temporaryName [] target.name other number
      rw [List.nil_append, List.nil_append] at sizes
      rw [sizes]
      exact leads.shortName

theorem createNew_of_leads {path : PathName} {name : Text}
    (leads : tree.Leads path directory name) :
    tree.createNew path =
      if (tree.node? (directory ++ [name])).isSome then .error .alreadyExists
      else .ok (tree.createAt (directory ++ [name])) := by
  rw [FileTree.createNew, leads.find, FileTree.placeAt]
  cases tree.node? (directory ++ [name]) <;> rfl

/-- The search for a name goes on until it comes to one that is free. -/
theorem exists_run_createTemporary {device : Device}
    (takes : TakesTemporary target tree directory)
    (takesNew : device.refuses .create = none) {free : Nat}
    (absent :
      tree.node? (directory ++ [temporaryName target.name free]) = none)
    {number attempts : Nat} (notBefore : number ≤ free)
    (reached : free < number + attempts) :
    ∃ created after,
      (createTemporary device target number attempts).run tree =
      (.ok created, after) := by
  -- A name that is taken is not the free one, so one attempt fewer is enough
  -- from the next number on.
  induction attempts generalizing number with
  | zero => omega
  | succ attempts ih =>
      let path := (tree.absolute target.parent).child
        (temporaryName target.name number)
      have created := run_ofUpdate path tree (device.createNew · path)
      rw [lookedUp, takes.valid number, Device.createNew, takesNew,
        Device.unlessRefused_none, createNew_of_leads (takes.leads number)]
        at created
      rw [createTemporary, run_bind_of_ok (run_get tree)]
      cases here : tree.node?
          (directory ++ [temporaryName target.name number]) with
      | none =>
          rw [here] at created
          have first : (ofUpdate path (device.createNew · path) >>=
              fun identity => pure (path, identity) :
              FileAction (PathName × Nat)).run tree = _ :=
            run_bind_of_ok created _
          exact ⟨_, _, run_tryCatch_of_ok first _⟩
      | some node =>
          rw [here] at created
          have first : (ofUpdate path (device.createNew · path) >>=
              fun identity => pure (path, identity) :
              FileAction (PathName × Nat)).run tree = _ :=
            run_bind_of_error created _
          have other : number ≠ free := by
            rintro rfl
            rw [absent] at here
            cases here
          rw [run_tryCatch_of_error first]
          exact ih (by omega) (by omega)

/-- From every number on, the next tags are all there are. -/
theorem exists_same_tag (start number : Nat) :
    ∃ other, start ≤ other ∧ other < start + tagCount ∧
      tag other = tag number := by
  have positive : 0 < tagCount := raise_pos (by decide) 8
  -- The number behind the start that leaves the same remainder.
  refine ⟨start + (number + (tagCount - 1) * start) % tagCount, by omega,
    ?_, tag_congr ?_⟩
  · exact Nat.add_lt_add_left (Nat.mod_lt _ positive) start
  · have whole : start + (number + (tagCount - 1) * start) =
        number + tagCount * start := by
      obtain ⟨count, countEq⟩ :=
        Nat.exists_eq_succ_of_ne_zero (Nat.ne_of_gt positive)
      rw [countEq, Nat.succ_sub_one, Nat.succ_mul]
      omega
    rw [Nat.add_mod_mod, whole, Nat.add_mul_mod_self_left]

/-- A search through all tags succeeds if one of the names is free. -/
theorem exists_run_createTemporary_of_free {device : Device}
    (takes : TakesTemporary target tree directory)
    (takesNew : device.refuses .create = none) {number : Nat}
    (absent :
      tree.node? (directory ++ [temporaryName target.name number]) = none)
    (start : Nat) :
    ∃ created after,
      (createTemporary device target start tagCount).run tree =
        (.ok created, after) := by
  obtain ⟨free, notBefore, reached, sameTag⟩ := exists_same_tag start number
  refine exists_run_createTemporary takes takesNew ?_ notBefore reached
  rw [temporaryName, sameTag]
  exact absent

end Search

end FileAction
end VestingContract
