import VestingContract.Proofs.Run.Results
import VestingContract.Yaml.Construct

/-!
# Faults of values

A tree of nodes has no value because it breaks a rule of the notation, because
one of its nodes holds a content that spells no value of the kind of the node,
or because too many of its nodes are inside each other.  Merging takes pairs
over from nodes inside a mapping, so that the nodes that are visited are those
of the tree, up to the kinds of some keys.
-/

namespace VestingContract
namespace Yaml

namespace Node

/-- A node is another one or stands inside it. -/
inductive Within : Node → Node → Prop where
  | here (node : Node) : Within node node
  | item {inner item : Node} {items : List Node} (tag : Tag)
      (member : item ∈ items) (inside : Within inner item) :
      Within inner (.sequence tag items)
  | key {inner : Node} {pair : Node × Node} {pairs : List (Node × Node)}
      (tag : Tag) (member : pair ∈ pairs) (inside : Within inner pair.1) :
      Within inner (.mapping tag pairs)
  | value {inner : Node} {pair : Node × Node} {pairs : List (Node × Node)}
      (tag : Tag) (member : pair ∈ pairs) (inside : Within inner pair.2) :
      Within inner (.mapping tag pairs)

/-- A node stands inside one of the keys and values of pairs. -/
def WithinPairs (inner : Node) (pairs : List (Node × Node)) : Prop :=
  ∃ pair ∈ pairs, inner.Within pair.1 ∨ inner.Within pair.2

/-- The content of a node spells no value of its kind. -/
def FailsWith (node : Node) (fault : Fault) : Prop :=
  ∃ room content, node.content room = .ok content ∧
    scalarValue node.tag content = .error fault

/-- A node is the reason for a fault: its content spells no value, or it is
nested too deeply. -/
inductive Explains (node : Node) : Fault → Prop where
  | content {fault : Fault} (fails : node.FailsWith fault) :
      Explains node fault
  | depth (deep : 400 < node.depth) : Explains node .tooDeep

section Within

variable {inner middle outer : Node} {pairs others : List (Node × Node)}

theorem Within.trans (lower : inner.Within middle)
    (upper : middle.Within outer) : inner.Within outer := by
  induction upper with
  | here => exact lower
  | item tag member _ ih => exact .item tag member ih
  | key tag member _ ih => exact .key tag member ih
  | value tag member _ ih => exact .value tag member ih

theorem Within.withinPairs (lower : inner.Within middle)
    (upper : middle.WithinPairs pairs) : inner.WithinPairs pairs := by
  obtain ⟨pair, member, inKey | inValue⟩ := upper
  · exact ⟨pair, member, .inl (lower.trans inKey)⟩
  · exact ⟨pair, member, .inr (lower.trans inValue)⟩

theorem WithinPairs.within (inside : inner.WithinPairs pairs) (tag : Tag) :
    inner.Within (.mapping tag pairs) := by
  obtain ⟨pair, member, inKey | inValue⟩ := inside
  · exact .key tag member inKey
  · exact .value tag member inValue

theorem WithinPairs.mono (inside : inner.WithinPairs pairs)
    (subset : pairs ⊆ others) : inner.WithinPairs others := by
  obtain ⟨pair, member, inPair⟩ := inside
  exact ⟨pair, subset member, inPair⟩

/-- Changing the kind of a node changes no node inside it. -/
theorem Within.of_withTag {tag : Tag}
    (inside : inner.Within (outer.withTag tag)) :
    inner = outer.withTag tag ∨ inner.Within outer := by
  cases outer with
  | scalar _ content =>
      cases inside
      exact .inl rfl
  | loop _ =>
      cases inside
      exact .inl rfl
  | sequence other items =>
      cases inside with
      | here => exact .inl rfl
      | item _ member inItem => exact .inr (.item other member inItem)
  | mapping other pairs =>
      cases inside with
      | here => exact .inl rfl
      | key _ member inKey => exact .inr (.key other member inKey)
      | value _ member inValue => exact .inr (.value other member inValue)

theorem not_failsWith_withTag_str {fault : Fault} :
    ¬ (outer.withTag .str).FailsWith fault := by
  rintro ⟨_, content, -, fails⟩
  cases outer <;> cases fails

end Within

section Depth

theorem depth_le_depthOfItems {item : Node} {items : List Node}
    (member : item ∈ items) : item.depth ≤ depthOfItems items := by
  induction items with
  | nil => cases member
  | cons first rest ih =>
      rw [depthOfItems]
      rcases List.mem_cons.mp member with rfl | later
      · exact Nat.le_max_left _ _
      · exact Nat.le_trans (ih later) (Nat.le_max_right _ _)

theorem depth_le_depthOfPairs {pair : Node × Node}
    {pairs : List (Node × Node)} (member : pair ∈ pairs) :
    pair.1.depth ≤ depthOfPairs pairs ∧
      pair.2.depth ≤ depthOfPairs pairs := by
  induction pairs with
  | nil => cases member
  | cons first rest ih =>
      rw [depthOfPairs]
      rcases List.mem_cons.mp member with rfl | later
      · omega
      · have := ih later
        omega

theorem Within.depth_le {inner outer : Node} (inside : inner.Within outer) :
    inner.depth ≤ outer.depth := by
  induction inside with
  | here => exact Nat.le_refl _
  | item tag member _ ih =>
      have := depth_le_depthOfItems member
      rw [depth]
      omega
  | key tag member _ ih =>
      have := depth_le_depthOfPairs member
      rw [depth]
      omega
  | value tag member _ ih =>
      have := depth_le_depthOfPairs member
      rw [depth]
      omega

theorem WithinPairs.depth_le {inner : Node} {pairs : List (Node × Node)}
    (inside : inner.WithinPairs pairs) :
    inner.depth ≤ depthOfPairs pairs := by
  obtain ⟨pair, member, inKey | inValue⟩ := inside
  · exact Nat.le_trans inKey.depth_le (depth_le_depthOfPairs member).1
  · exact Nat.le_trans inValue.depth_le (depth_le_depthOfPairs member).2

@[simp]
theorem depth_withTag (node : Node) (tag : Tag) :
    (node.withTag tag).depth = node.depth := by
  cases node <;> simp only [withTag, depth]

end Depth

section Merging

/-- A pair of nodes that are inside; the key may have become a text. -/
structure IsTaken (Inside : Node → Prop) (pair : Node × Node) : Prop where
  key : ∃ key, Inside key ∧ (pair.1 = key ∨ pair.1 = key.withTag .str)
  value : Inside pair.2

theorem IsTaken.mono {Inside Around : Node → Prop} {pair : Node × Node}
    (isTaken : IsTaken Inside pair)
    (wider : ∀ node, Inside node → Around node) : IsTaken Around pair := by
  obtain ⟨⟨key, inside, same⟩, value⟩ := isTaken
  exact ⟨⟨key, wider key inside, same⟩, wider _ value⟩

theorem IsTaken.depth_le {pairs : List (Node × Node)} {pair : Node × Node}
    (isTaken : IsTaken (·.WithinPairs pairs) pair) :
    pair.1.depth ≤ depthOfPairs pairs ∧
      pair.2.depth ≤ depthOfPairs pairs := by
  refine ⟨?_, isTaken.value.depth_le⟩
  obtain ⟨key, inside, same | same⟩ := isTaken.key
  · rw [same]
    exact inside.depth_le
  · rw [same, depth_withTag]
    exact inside.depth_le

/-- Pairs that are taken from inside, a broken rule, or calls that are nested
too deeply for what is inside. -/
def Takes {α : Type} (pairsOf : α → List (Node × Node))
    (Inside : Node → Prop) (Deep : Prop) : Except Fault α → Prop
  | .error fault => fault = .malformed ∨ fault = .tooDeep ∧ Deep
  | .ok found => ∀ pair ∈ pairsOf found, IsTaken Inside pair

theorem Takes.bind {α β : Type} {pairsOf : α → List (Node × Node)}
    {othersOf : β → List (Node × Node)} {Inside Around : Node → Prop}
    {Deep Deeper : Prop} {first : Except Fault α} {next : α → Except Fault β}
    (takes : Takes pairsOf Inside Deep first) (deeper : Deep → Deeper)
    (continues : ∀ found, (∀ pair ∈ pairsOf found, IsTaken Inside pair) →
      Takes othersOf Around Deeper (next found)) :
    Takes othersOf Around Deeper (first >>= next) := by
  cases first with
  | error fault => exact takes.imp_right (.imp_right deeper)
  | ok found => exact continues found takes

theorem depth_pos (node : Node) : 0 < node.depth := by
  cases node <;> simp [depth]

/-- What merging takes over stands inside what is merged. -/
theorem takes_merges :
    (∀ room pairs, Takes (fun found => found.1 ++ found.2)
      (·.WithinPairs pairs) (room < depthOfPairs pairs)
      (splitMerges room pairs)) ∧
    (∀ room (node : Node), Takes id (·.Within node) (room < node.depth)
      (mergedPairs room node)) ∧
    ∀ room items, Takes List.flatten
      (fun inner => ∃ item ∈ items, inner.Within item)
      (room < depthOfItems items) (mergedLists room items) := by
  have later : ∀ {first : Node × Node} {rest : List (Node × Node)}
      {pair : Node × Node}, IsTaken (·.WithinPairs rest) pair →
        IsTaken (·.WithinPairs (first :: rest)) pair :=
    fun isTaken => isTaken.mono fun _ inside =>
      inside.mono (List.subset_cons_self _ _)
  have inValue : ∀ (key value : Node) (rest : List (Node × Node)),
      value.WithinPairs ((key, value) :: rest) := fun key value rest =>
    ⟨_, List.mem_cons_self, .inr (.here value)⟩
  have inKey : ∀ (key value : Node) (rest : List (Node × Node)),
      key.WithinPairs ((key, value) :: rest) := fun key value rest =>
    ⟨_, List.mem_cons_self, .inl (.here key)⟩
  have deeper : ∀ (room : Nat) (first : Node × Node)
      (rest : List (Node × Node)), room < depthOfPairs rest →
        room < depthOfPairs (first :: rest) := by
    intro room first rest deep
    rw [depthOfPairs]
    omega
  apply splitMerges.mutual_induct_unfolding
    (fun room pairs => Takes (fun found => found.1 ++ found.2)
      (·.WithinPairs pairs) (room < depthOfPairs pairs))
    (fun room node => Takes id (·.Within node) (room < node.depth))
    (fun room items => Takes List.flatten
      (fun inner => ∃ item ∈ items, inner.Within item)
      (room < depthOfItems items))
  -- What is merged: a mapping without or with room for it, a sequence of
  -- mappings, or what cannot be merged.
  case case1 => exact fun tag pairs => .inr ⟨rfl, depth_pos _⟩
  case case2 =>
    intro room tag pairs ih
    refine ih.bind (fun deep => ?_) fun found taken pair member => ?_
    · rw [depth]
      omega
    · exact (taken pair member).mono fun _ inside => inside.within tag
  case case3 =>
    intro room tag items ih
    refine ih.bind (fun deep => ?_) fun found taken pair member => ?_
    · rw [depth]
      omega
    · have inItems : pair ∈ found.flatten := by
        simpa only [id, List.mem_flatten, List.mem_reverse] using member
      refine (taken pair inItems).mono fun _ inside => ?_
      obtain ⟨item, isItem, inItem⟩ := inside
      exact .item tag isItem inItem
  case case4 => exact fun _ _ _ _ _ => .inl rfl
  -- The mappings of a sequence.
  case case5 => exact fun _ _ member => nomatch member
  case case6 =>
    intro tag pairs items
    refine .inr ⟨rfl, ?_⟩
    rw [depthOfItems, depth]
    omega
  case case7 =>
    intro room tag pairs items ofPairs ofItems
    refine ofPairs.bind (fun deep => ?_) fun found taken => ?_
    · rw [depthOfItems, depth]
      omega
    refine ofItems.bind (fun deep => ?_) fun lists takenLists pair member => ?_
    · rw [depthOfItems]
      omega
    rcases List.mem_append.mp member with isFirst | isLater
    · exact (taken pair isFirst).mono fun _ inside =>
        ⟨_, List.mem_cons_self, inside.within tag⟩
    · exact (takenLists pair isLater).mono fun _ ⟨item, isItem, inItem⟩ =>
        ⟨item, List.mem_cons_of_mem _ isItem, inItem⟩
  case case8 => exact fun _ _ _ _ _ => .inl rfl
  -- The three kinds of pairs: one to merge, one whose key is no text yet, and
  -- any other.
  case case9 => exact fun _ _ member => nomatch member
  case case10 =>
    intro room key value pairs _ ofValue ofPairs
    refine ofValue.bind (fun deep => ?_) fun found taken => ?_
    · rw [depthOfPairs]
      omega
    refine ofPairs.bind (deeper _ _ _) fun split takenPairs pair member => ?_
    rw [List.append_assoc] at member
    rcases List.mem_append.mp member with isMerged | isLater
    · exact (taken pair isMerged).mono fun _ inside =>
        inside.withinPairs (inValue key value pairs)
    · exact later (takenPairs pair isLater)
  case case11 =>
    intro room key value pairs _ ofPairs
    refine ofPairs.bind (deeper _ _ _) fun split takenPairs pair member => ?_
    rcases List.mem_append.mp member with isTaken | isOwn
    · exact later (takenPairs pair (List.mem_append_left _ isTaken))
    · rcases List.mem_cons.mp isOwn with rfl | isLater
      · exact ⟨⟨key, inKey key value pairs, .inr rfl⟩,
          inValue key value pairs⟩
      · exact later (takenPairs pair (List.mem_append_right _ isLater))
  case case12 =>
    intro room key value pairs _ _ ofPairs
    refine ofPairs.bind (deeper _ _ _) fun split takenPairs pair member => ?_
    rcases List.mem_append.mp member with isTaken | isOwn
    · exact later (takenPairs pair (List.mem_append_left _ isTaken))
    · rcases List.mem_cons.mp isOwn with rfl | isLater
      · exact ⟨⟨key, inKey key value pairs, .inl rfl⟩,
          inValue key value pairs⟩
      · exact later (takenPairs pair (List.mem_append_right _ isLater))

theorem takes_effectivePairs (room : Nat) (pairs : List (Node × Node)) :
    Takes id (·.WithinPairs pairs) (room < depthOfPairs pairs)
      (effectivePairs room pairs) :=
  (takes_merges.1 room pairs).bind id fun _ taken => taken

/-- A node that is wanted as a scalar has a content, breaks a rule, or is
nested too deeply. -/
theorem onlyFails_contents :
    (∀ room (node : Node), OnlyFails
      (fun fault => fault = .malformed ∨
        fault = .tooDeep ∧ room < node.depth) (node.content room)) ∧
    ∀ room pairs, OnlyFails
      (fun fault => fault = .malformed ∨
        fault = .tooDeep ∧ room < depthOfPairs pairs)
      (contentOfPairs room pairs) := by
  apply content.mutual_induct_unfolding
    (fun room node => OnlyFails fun fault => fault = .malformed ∨
      fault = .tooDeep ∧ room < node.depth)
    (fun room pairs => OnlyFails fun fault => fault = .malformed ∨
      fault = .tooDeep ∧ room < depthOfPairs pairs)
  case case1 => exact fun _ _ _ => onlyFails_ok
  case case2 =>
    exact fun _ _ => onlyFails_error.mpr (.inr ⟨rfl, depth_pos _⟩)
  case case3 =>
    intro room tag pairs ih fault fails
    refine (ih fault fails).imp_right fun ⟨isDeep, deep⟩ => ⟨isDeep, ?_⟩
    rw [depth]
    omega
  case case4 => exact fun _ _ _ _ _ => onlyFails_error.mpr (.inl rfl)
  case case5 => exact fun _ => onlyFails_error.mpr (.inl rfl)
  case case6 =>
    intro room key value pairs _ ih fault fails
    refine (ih fault fails).imp_right fun ⟨isDeep, deep⟩ => ⟨isDeep, ?_⟩
    rw [depthOfPairs]
    omega
  case case7 =>
    intro room key value pairs _ ih fault fails
    refine (ih fault fails).imp_right fun ⟨isDeep, deep⟩ => ⟨isDeep, ?_⟩
    rw [depthOfPairs]
    omega

end Merging

section Building

/-- The fault of a broken rule, or of a node that is inside. -/
def Causes (Inside : Node → Prop) (fault : Fault) : Prop :=
  fault = .malformed ∨ ∃ inner, Inside inner ∧ inner.Explains fault

theorem Causes.mono {Inside Around : Node → Prop} {fault : Fault}
    (wider : ∀ inner, Inside inner → Around inner)
    (causes : Causes Inside fault) : Causes Around fault :=
  causes.imp_right fun ⟨inner, inside, explains⟩ =>
    ⟨inner, wider inner inside, explains⟩

/-- A key that has become a text causes the faults of the key only. -/
theorem causes_of_isTaken {Inside : Node → Prop} {pair : Node × Node}
    {fault : Fault} (closed : ∀ ⦃inner outer : Node⦄, inner.Within outer →
      Inside outer → Inside inner)
    (isTaken : IsTaken Inside pair)
    (causes : Causes (·.Within pair.1) fault) : Causes Inside fault := by
  obtain ⟨key, inside, same | same⟩ := isTaken.key
  · rw [same] at causes
    exact causes.mono fun _ inKey => closed inKey inside
  · rw [same] at causes
    rcases causes with malformed | ⟨inner, inKey, explains⟩
    · exact .inl malformed
    · rcases inKey.of_withTag with rfl | inKey
      · cases explains with
        | content fails => exact absurd fails not_failsWith_withTag_str
        | depth deep =>
            rw [depth_withTag] at deep
            exact .inr ⟨key, inside, .depth deep⟩
      · exact .inr ⟨inner, closed inKey inside, explains⟩

variable {level : Nat} {tag : Tag} {content : Text} {found : Nat × Fault}

theorem mem_faults_fail {α : Type} {standIn : α} {fault : Fault}
    (member : found ∈ (Built.fail standIn level fault).faults) :
    found.2 = fault := by
  obtain rfl := List.mem_singleton.mp member
  rfl

theorem mem_faults_buildScalar
    (member : found ∈ (buildScalar level tag content).faults) :
    scalarValue tag content = .error found.2 := by
  rw [buildScalar] at member
  cases value : scalarValue tag content with
  | ok value =>
      rw [value] at member
      cases member
  | error fault =>
      rw [value] at member
      rw [mem_faults_fail member]

theorem mem_faults_both {α β γ : Type} {join : α → β → γ} {left : Built α}
    {right : Built β} (member : found ∈ (Built.both join left right).faults) :
    found ∈ left.faults ∨ found ∈ right.faults :=
  List.mem_append.mp member

theorem mem_faults_asKey {key : Built Value}
    (member : found ∈ (key.asKey level).faults) :
    found.2 = .malformed ∨ found ∈ key.faults := by
  rw [Built.asKey] at member
  split at member
  · exact .inl (mem_faults_fail member)
  · exact .inr member

/-- Up to a bound on their depth, every fault that is met on the way through a
node is the fault of a broken rule or of a node inside it. -/
def FaultsInside (interpreter : Interpreter) (bound : Nat) : Prop :=
  ∀ (level : Nat) (node : Node) (found : Nat × Fault), node.depth ≤ bound →
    found ∈ (build interpreter bound level node).faults →
      Causes (·.Within node) found.2

section Steps

variable {interpreter : Interpreter} {bound : Nat}

theorem causes_of_mem_sequence (inside : FaultsInside interpreter bound)
    {items : List Node}
    (bounded : (sequence tag items).depth ≤ bound + 1)
    (member : found ∈
      (build interpreter (bound + 1) level (sequence tag items)).faults) :
    Causes (·.Within (sequence tag items)) found.2 := by
  have shallow : ∀ item ∈ items, item.depth ≤ bound := by
    intro item isItem
    have := depth_le_depthOfItems isItem
    rw [depth] at bounded
    omega
  simp only [build] at member
  split at member
  · simp only [List.flatMap_map, List.mem_flatMap] at member
    obtain ⟨item, isItem, member⟩ := member
    exact (inside _ _ _ (shallow item isItem) member).mono
      fun _ inItem => .item tag isItem inItem
  · split at member
    · simp only [List.flatMap_map, List.mem_flatMap] at member
      obtain ⟨item, isItem, member⟩ := member
      split at member
      · next kind key value =>
          have small := shallow _ isItem
          have parts := depth_le_depthOfPairs
            (List.mem_singleton_self (key, value))
          dsimp only at parts
          rw [depth] at small
          rcases mem_faults_both member with ofKey | ofValue
          · exact (inside _ _ _ (by omega) ofKey).mono fun _ inKey =>
              .item tag isItem (.key kind (List.mem_singleton_self _) inKey)
          · exact (inside _ _ _ (by omega) ofValue).mono fun _ inValue =>
              .item tag isItem
                (.value kind (List.mem_singleton_self _) inValue)
      · exact .inl (mem_faults_fail member)
    · split at member <;> exact .inl (mem_faults_fail member)

/-- Pairs that are taken from inside cause faults of what is inside. -/
theorem causes_of_mem_pair (inside : FaultsInside interpreter bound)
    {pairs : List (Node × Node)} {pair : Node × Node}
    (isTaken : IsTaken (·.WithinPairs pairs) pair)
    (bounded : depthOfPairs pairs ≤ bound)
    (member : found ∈ (if pair.1.tag.isCollection then
        Built.fail .null (level + 1) .malformed
      else
        (build interpreter bound (level + 1) pair.1).asKey
          (level + 1)).faults ∨
      found ∈ (build interpreter bound (level + 1) pair.2).faults) :
    Causes (·.WithinPairs pairs) found.2 := by
  obtain ⟨keyDepth, valueDepth⟩ := isTaken.depth_le
  rcases member with ofKey | ofValue
  · split at ofKey
    · exact .inl (mem_faults_fail ofKey)
    · rcases mem_faults_asKey ofKey with malformed | ofKey
      · exact .inl malformed
      · exact causes_of_isTaken (fun _ _ => Within.withinPairs) isTaken
          (inside _ _ _ (by omega) ofKey)
  · exact (inside _ _ _ (by omega) ofValue).mono fun _ inValue =>
      inValue.withinPairs isTaken.value

theorem causes_of_mem_mapping (inside : FaultsInside interpreter bound)
    {pairs : List (Node × Node)}
    (bounded : (mapping tag pairs).depth ≤ bound + 1)
    (member : found ∈
      (build interpreter (bound + 1) level (mapping tag pairs)).faults) :
    Causes (·.Within (mapping tag pairs)) found.2 := by
  have enough := interpreter.merges.property.1
  have deeper : ∀ {fault : Fault}, fault = .malformed ∨ fault = .tooDeep ∧
      interpreter.merges.val < (mapping tag pairs).depth →
        Causes (·.Within (mapping tag pairs)) fault := by
    rintro fault (malformed | ⟨rfl, deep⟩)
    · exact .inl malformed
    · exact .inr ⟨_, .here _, .depth (by omega)⟩
  simp only [build] at member
  split at member
  · have takes := takes_effectivePairs interpreter.merges pairs
    split at member
    · next fault broken =>
        rw [broken] at takes
        rw [mem_faults_fail member]
        refine deeper (takes.imp_right (.imp_right fun deep => ?_))
        rw [depth]
        omega
    · next effective merged =>
        rw [merged] at takes
        simp only [List.flatMap_map, List.mem_flatMap] at member
        obtain ⟨pair, isPair, member⟩ := member
        rw [depth] at bounded
        exact (causes_of_mem_pair inside (takes pair isPair) (by omega)
          (mem_faults_both member)).mono fun _ inPairs => inPairs.within tag
  · split at member
    · exact .inl (mem_faults_fail member)
    · split at member
      · next content given =>
          exact .inr ⟨_, .here _, .content ⟨_, content, given,
            mem_faults_buildScalar member⟩⟩
      · next fault broken =>
          rw [mem_faults_fail member]
          exact deeper (onlyFails_contents.1 _ _ fault broken)

end Steps

theorem faultsInside (interpreter : Interpreter) (bound : Nat) :
    FaultsInside interpreter bound := by
  induction bound with
  | zero =>
      intro level node found bounded
      cases node <;> simp [depth] at bounded
  | succ bound ih =>
      intro level node found bounded member
      cases node with
      | loop tag => cases member
      | scalar tag content =>
          rw [build] at member
          split at member
          · exact .inl (mem_faults_fail member)
          · exact .inr ⟨_, .here _, .content ⟨0, content, rfl,
              mem_faults_buildScalar member⟩⟩
      | sequence tag items => exact causes_of_mem_sequence ih bounded member
      | mapping tag pairs => exact causes_of_mem_mapping ih bounded member

end Building

end Node

section Documents

theorem Built.mem_of_result {α : Type} {built : Built α} {fault : Fault}
    (fails : built.result = .error fault) :
    ∃ found ∈ built.faults, found.2 = fault := by
  have least : ∀ (rest : List (Nat × Fault)) (first : Nat × Fault),
      rest.foldl (fun least fault =>
        if fault.1 < least.1 then fault else least) first ∈
          first :: rest := by
    intro rest
    induction rest with
    | nil => exact fun first => List.mem_singleton_self first
    | cons next rest ih =>
        intro first
        have chosen := ih (if next.1 < first.1 then next else first)
        rw [List.foldl_cons]
        rcases List.mem_cons.mp chosen with same | later
        · rw [same]
          split <;> simp
        · exact List.mem_cons_of_mem _ (List.mem_cons_of_mem _ later)
  rw [result] at fails
  split at fails
  · cases fails
  · next first rest faults =>
      injection fails with same
      exact ⟨_, faults ▸ least rest first, same⟩

/-- A document has no value because it has no root, or because of a node of
the tree of its root. -/
theorem valueOf_cases {interpreter : Interpreter} {stream : Stream}
    {fault : Fault} (fails : valueOf interpreter stream = .error fault) :
    rootOf interpreter stream = .error fault ∨
    ∃ root, rootOf interpreter stream = .ok (some root) ∧
      Node.Causes (·.Within root) fault := by
  rw [valueOf] at fails
  cases read : rootOf interpreter stream with
  | error other =>
      rw [read] at fails
      cases fails
      exact .inl rfl
  | ok root =>
      rw [read] at fails
      cases root with
      | none => cases fails
      | some root =>
          obtain ⟨found, member, rfl⟩ := Built.mem_of_result fails
          exact .inr ⟨root, rfl,
            Node.faultsInside _ _ _ _ _ (Nat.le_succ _) member⟩

end Documents

end Yaml
end VestingContract
