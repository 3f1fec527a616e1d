import Mathlib.Tactic

namespace Mesh

variable {N : Type} [DecidableEq N]

/-- The nodes that a node is linked to, and whether it opens the link. -/
abbrev Links (N : Type) := N → Option Bool

inductive Change (N : Type) where
  | add (other : N) (opens : Bool)
  | remove (other : N)
  | clear
  deriving DecidableEq

namespace Change

/-- A link that exists is kept. -/
def apply (links : Links N) : Change N → Links N
  | add other opens => if (links other).isSome then links else Function.update links other (some opens)
  | remove other => Function.update links other none
  | clear => fun _ => none

theorem apply_add (links : Links N) (other node : N) (opens : Bool) :
    (add other opens).apply links node = if node = other then some ((links other).getD opens) else links node := by
  change (if (links other).isSome then links else Function.update links other (some opens)) node = _
  by_cases present : (links other).isSome
  · obtain ⟨link, found⟩ := Option.isSome_iff_exists.mp present
    rw [if_pos present]
    split
    · rename_i same
      rw [same, found, Option.getD_some]
    · rfl
  · rw [if_neg present, Option.not_isSome_iff_eq_none.mp present, Option.getD_none]
    exact Function.update_apply links other (some opens) node

theorem apply_remove (links : Links N) (other node : N) :
    (remove other).apply links node = if node = other then none else links node :=
  Function.update_apply links other none node

end Change

/-- One node gets one change. -/
def direct (links : N → Links N) (change : N × Change N) : N → Links N :=
  Function.update links change.1 (change.2.apply (links change.1))

theorem direct_apply (links : N → Links N) (receiver : N) (change : Change N) (node : N) :
    direct links (receiver, change) node = if node = receiver then change.apply (links node) else links node := by
  unfold direct
  split
  · rename_i same
    rw [same, Function.update_self]
  · rename_i different
    exact Function.update_of_ne different _ _

/-- A node only sees the changes that it gets. -/
theorem foldl_direct (changes : List (N × Change N)) (links : N → Links N) (node : N) :
    changes.foldl direct links node =
      ((changes.filter (·.1 = node)).map Prod.snd).foldl Change.apply (links node) := by
  induction changes generalizing links with
  | nil => rfl
  | cons change rest ih =>
      obtain ⟨receiver, change⟩ := change
      rw [List.foldl_cons, ih, direct_apply]
      by_cases same : node = receiver
      · rw [if_pos same, List.filter_cons_of_pos (by simp [same])]
        rfl
      · rw [if_neg same, List.filter_cons_of_neg (by simp [Ne.symm same])]

/-- The fellows of a node and the node itself forget each other. -/
def farewell (leaving : N) (fellow : N) : List (N × Change N) :=
  [(fellow, .remove leaving), (leaving, .remove fellow)]

theorem foldl_farewell {fellows : List N} {leaving : N} (others : leaving ∉ fellows) (links : N → Links N)
    (node other : N) :
    (fellows.flatMap (farewell leaving)).foldl direct links node other =
      if (node ∈ fellows ∧ other = leaving) ∨ (node = leaving ∧ other ∈ fellows) then none else links node other := by
  induction fellows generalizing links with
  | nil => simp
  | cons fellow rest ih =>
      obtain ⟨different, outside⟩ := List.ne_and_not_mem_of_not_mem_cons others
      rw [List.flatMap_cons, List.foldl_append, ih outside]
      simp only [farewell, List.foldl_cons, List.foldl_nil, direct_apply]
      by_cases own : node = leaving
      · subst own
        rw [if_neg different, if_pos rfl, Change.apply_remove]
        by_cases here : other = fellow
        · simp [here]
        · simp [here, outside, different]
      · by_cases first : node = fellow
        · subst first
          rw [if_neg own, if_pos rfl, Change.apply_remove]
          by_cases last : other = leaving
          · simp [last]
          · simp [last, own]
        · simp [own, first]

/-- The present nodes open links to a node that joins them. -/
def greeting (joining : N) (fellow : N) : List (N × Change N) :=
  [(fellow, .add joining true), (joining, .add fellow false)]

theorem foldl_greeting {fellows : List N} {joining : N} (others : joining ∉ fellows) (links : N → Links N)
    (node other : N) :
    (fellows.flatMap (greeting joining)).foldl direct links node other =
      if node ∈ fellows ∧ other = joining then some ((links node joining).getD true)
      else if node = joining ∧ other ∈ fellows then some ((links joining other).getD false)
      else links node other := by
  induction fellows generalizing links with
  | nil => simp
  | cons fellow rest ih =>
      obtain ⟨different, outside⟩ := List.ne_and_not_mem_of_not_mem_cons others
      rw [List.flatMap_cons, List.foldl_append, ih outside]
      simp only [greeting, List.foldl_cons, List.foldl_nil, direct_apply]
      by_cases own : node = joining
      · subst own
        simp only [if_neg different, if_true, Change.apply_add]
        by_cases here : other = fellow
        · subst here
          simp [Ne.symm different]
        · by_cases same : other = node
          · subst same
            simp [outside, different]
          · simp [here, same]
      · by_cases first : node = fellow
        · subst first
          simp only [if_neg own, if_true, Change.apply_add]
          by_cases last : other = joining
          · simp [last, own]
          · simp [last, own]
        · simp [own, first]

/-- Present nodes of one group are linked, exactly one of the two opens the link, and no other links are left. -/
structure Linked (present : N → Prop) (group : N → N → Prop) (links : N → Links N) : Prop where
  paired : ∀ {first second : N}, present first → present second → first ≠ second → group first second →
    ∃ opens, links first second = some opens ∧ links second first = some !opens
  apart : ∀ {first second : N}, present first → first = second ∨ ¬ group first second → links first second = none

namespace Linked

variable {present : N → Prop} {group : N → N → Prop} {links : N → Links N}

omit [DecidableEq N] in
theorem mono (linked : Linked present group links) {fewer : N → Prop} (subset : ∀ node, fewer node → present node) :
    Linked fewer group links where
  paired first second different together := linked.paired (subset _ first) (subset _ second) different together
  apart first separate := linked.apart (subset _ first) separate

omit [DecidableEq N] in
theorem congr (linked : Linked present group links) {same : N → Links N}
    (equal : ∀ node, present node → same node = links node) : Linked present group same where
  paired := by
    intro first second one two different together
    rw [equal first one, equal second two]
    exact linked.paired one two different together
  apart := by
    intro first second one separate
    rw [equal first one]
    exact linked.apart one separate

omit [DecidableEq N] in
theorem regroup (linked : Linked present group links) {same : N → N → Prop}
    (equal : ∀ first second, same first second ↔ group first second) : Linked present same links where
  paired one two different together := linked.paired one two different ((equal _ _).mp together)
  apart one separate := linked.apart one (separate.imp_right fun others together => others ((equal _ _).mpr together))

omit [DecidableEq N] in
/-- A new node has no links and no group. -/
theorem enter (linked : Linked present group links) {node : N} (bare : links node = fun _ => none)
    (alone : ∀ other, ¬ group node other ∧ ¬ group other node) :
    Linked (fun other => other = node ∨ present other) group links where
  paired := by
    intro first second one two different together
    rcases one with rfl | one
    · exact absurd together (alone second).1
    · rcases two with rfl | two
      · exact absurd together (alone first).2
      · exact linked.paired one two different together
  apart := by
    intro first second one separate
    rcases one with rfl | one
    · rw [bare]
    · exact linked.apart one separate

omit [DecidableEq N] in
/-- All nodes of a closed group forget their links. -/
theorem close (linked : Linked present group links)
    (symmetric : ∀ first second, group first second → group second first) {members : N → Prop}
    (closed : ∀ first second, members first → group first second → members second)
    {rest : N → N → Prop} (remains : ∀ first second, rest first second ↔ group first second ∧ ¬ members first)
    {after : N → Links N} (bare : ∀ node, present node → members node → after node = fun _ => none)
    (kept : ∀ node, present node → ¬ members node → after node = links node) : Linked present rest after where
  paired := by
    intro first second one two different together
    obtain ⟨before, outside⟩ := (remains first second).mp together
    have also : ¬ members second := fun within => outside (closed second first within (symmetric first second before))
    rw [kept first one outside, kept second two also]
    exact linked.paired one two different before
  apart := by
    intro first second one separate
    by_cases within : members first
    · rw [bare first one within]
    · rw [kept first one within]
      apply linked.apart one
      rcases separate with same | others
      · exact .inl same
      · exact .inr fun together => others ((remains first second).mpr ⟨together, within⟩)

/-- A node and its fellows forget each other. The node may have forgotten some of them before. -/
theorem leave (linked : Linked present group links) {leaving : N} {fellows : List N} (others : leaving ∉ fellows)
    (all : ∀ other, other ≠ leaving → group leaving other ∨ group other leaving → other ∈ fellows)
    {rest : N → N → Prop}
    (remains : ∀ first second, rest first second ↔ group first second ∧ first ≠ leaving ∧ second ≠ leaving)
    {start : N → Links N} (kept : ∀ node, node ≠ leaving → start node = links node)
    (fewer : ∀ other, start leaving other = none ∨ start leaving other = links leaving other) :
    Linked present rest ((fellows.flatMap (farewell leaving)).foldl direct start) where
  paired := by
    intro first second one two different together
    obtain ⟨before, first', second'⟩ := (remains first second).mp together
    rw [foldl_farewell others, foldl_farewell others, if_neg (by simp [first', second']),
      if_neg (by simp [first', second']), kept first first', kept second second']
    exact linked.paired one two different before
  apart := by
    intro first second one separate
    rw [foldl_farewell others]
    split
    · rfl
    · rename_i untold
      rw [not_or] at untold
      have bare : links first second = none → start first second = none := by
        intro absent
        by_cases own : first = leaving
        · subst own
          exact (fewer second).elim id fun same => same.trans absent
        · rw [kept first own, absent]
      apply bare
      by_cases same : first = second
      · exact linked.apart one (.inl same)
      · apply linked.apart one
        right
        intro together
        have after := separate.resolve_left same
        rw [remains, not_and, not_and, not_not] at after
        by_cases own : first = leaving
        · subst own
          exact untold.2 ⟨rfl, all second (Ne.symm same) (.inl together)⟩
        · have last := after together own
          subst last
          exact untold.1 ⟨all first own (.inr together), rfl⟩

/-- A node without a group joins one. -/
theorem join (linked : Linked present group links) {joining : N} {fellows : List N} (others : joining ∉ fellows)
    (alone : ∀ other, ¬ group joining other ∧ ¬ group other joining)
    {grown : N → N → Prop} (grows : ∀ first second, grown first second ↔ group first second ∨
      (first = joining ∧ (second = joining ∨ second ∈ fellows)) ∨ (second = joining ∧ first ∈ fellows)) :
    Linked present grown ((fellows.flatMap (greeting joining)).foldl direct links) where
  paired := by
    intro first second one two different together
    rw [foldl_greeting others, foldl_greeting others]
    rcases (grows first second).mp together with before | ⟨rfl, joined⟩ | ⟨rfl, fellow⟩
    · have first' : first ≠ joining := fun same => (alone second).1 (same ▸ before)
      have second' : second ≠ joining := fun same => (alone first).2 (same ▸ before)
      simp only [first', second', and_false, false_and, if_false]
      exact linked.paired one two different before
    · have fellow := joined.resolve_left (Ne.symm different)
      have bare := linked.apart two (.inr (alone second).2)
      have free := linked.apart one (.inr (alone second).1)
      refine ⟨false, ?_, ?_⟩
      · rw [if_neg fun both => others both.1, if_pos ⟨rfl, fellow⟩, free]
        rfl
      · rw [if_pos ⟨fellow, rfl⟩, bare]
        rfl
    · have bare := linked.apart one (.inr (alone first).2)
      have free := linked.apart two (.inr (alone first).1)
      refine ⟨true, ?_, ?_⟩
      · rw [if_pos ⟨fellow, rfl⟩, bare]
        rfl
      · rw [if_neg fun both => others both.1, if_pos ⟨rfl, fellow⟩, free]
        rfl
  apart := by
    intro first second one separate
    rw [foldl_greeting others]
    have untold : ¬ (first ∈ fellows ∧ second = joining) := by
      rintro ⟨fellow, rfl⟩
      rcases separate with rfl | never
      · exact others fellow
      · exact never ((grows first second).mpr (.inr (.inr ⟨rfl, fellow⟩)))
    have unasked : ¬ (first = joining ∧ second ∈ fellows) := by
      rintro ⟨rfl, fellow⟩
      rcases separate with rfl | never
      · exact others fellow
      · exact never ((grows first second).mpr (.inr (.inl ⟨rfl, .inr fellow⟩)))
    rw [if_neg untold, if_neg unasked]
    apply linked.apart one
    rcases separate with same | never
    · exact .inl same
    · exact .inr fun before => never ((grows first second).mpr (.inl before))

end Linked
end Mesh
