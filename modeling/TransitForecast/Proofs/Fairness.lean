import Mathlib.Data.List.Rotate
import TransitForecast.Proofs.Delivery

/-!
# TransitForecast — queue groups are fair

Whose turn it is in a queue group is counted on with every message and taken modulo the members that
the group has by then. The count itself is never reduced when members leave, so it may stand
anywhere up to the most members that there ever were. From wherever it stands, as long as the group
keeps its members, the messages go round: the next ones go to the members in the order in which they
joined, from the one whose turn it is, and after the last to the first.

## Results

* `cursor_step`         — which operations count the turns of a group on, and to where.
* `cursor_run_le`       — the count stays within the members that the group had at some time.
* `getElem?_selections` — who gets each message while nobody joins or leaves.
* `queue_groups_are_fair` — as many messages as members: each member gets its turn once.
-/

namespace TransitForecast

namespace Bus

-- ---------------------------------------------------------------------------
-- Turns of a group
-- ---------------------------------------------------------------------------

/-- The ids of the members of a queue group, in the order in which they joined. -/
def idsOf (b : Bus) (subject group : String) : List SubscriptionId :=
  (b.membersOf subject group).map Mailbox.id

/-- How far the turns of a queue group were counted; nothing before its first message. -/
def cursor (b : Bus) (subject group : String) : Nat := (b.turns.find? (subject, group)).getD 0

section Cursor

variable {b c : Bus} {f : Mailbox → Mailbox} {subject group : String}

theorem length_idsOf (b : Bus) (subject group : String) :
    (b.idsOf subject group).length = (b.membersOf subject group).length := List.length_map _

theorem idsOf_eq_nil_iff : b.idsOf subject group = [] ↔ b.membersOf subject group = [] :=
  List.map_eq_nil_iff

theorem turnOf_eq (b : Bus) (subject group : String) :
    b.turnOf subject group = b.cursor subject group % (b.idsOf subject group).length := by
  rw [length_idsOf]
  rfl

theorem chosen?_eq (b : Bus) (subject group : String) :
    b.chosen? subject group =
      (b.idsOf subject group)[b.cursor subject group % (b.idsOf subject group).length]? := by
  rw [chosen?, turnOf_eq, idsOf, List.getElem?_map]

theorem turnOf_lt (h : b.idsOf subject group ≠ []) :
    b.turnOf subject group < (b.idsOf subject group).length := by
  rw [turnOf_eq]
  exact Nat.mod_lt _ (List.length_pos_of_ne_nil h)

theorem chosen?_eq_none_iff : b.chosen? subject group = none ↔ b.idsOf subject group = [] := by
  rw [chosen?_eq, ← turnOf_eq, List.getElem?_eq_none_iff]
  constructor
  · intro hLe
    by_contra h
    exact absurd (turnOf_lt h) (Nat.not_lt.2 hLe)
  · intro h
    rw [h]
    exact Nat.zero_le _

theorem idsOf_map (hStays : Mailbox.Stays f) (h : c.members = b.members.map f) :
    c.idsOf subject group = b.idsOf subject group := by
  rw [idsOf, membersOf_map hStays h, List.map_map]
  exact List.map_congr_left fun m _ => (hStays m).1

theorem idsOf_deliverToGroup (b : Bus) (msg : Message) (subject group group' : String) :
    (deliverToGroup msg b group').idsOf subject group = b.idsOf subject group :=
  idsOf_map (Mailbox.stays_deliver _ msg) (b.members_deliverToGroup msg group')

/-- A message for a group with members counts its turns on, and those of no other group. -/
theorem cursor_deliverToGroup (b : Bus) (msg : Message) (subject group group' : String) :
    (deliverToGroup msg b group').cursor subject group =
      if (subject = msg.subject ∧ group = group') ∧ b.idsOf subject group ≠ [] then
        b.turnOf subject group + 1
      else b.cursor subject group := by
  unfold deliverToGroup
  by_cases hGroup : subject = msg.subject ∧ group = group'
  · obtain ⟨rfl, rfl⟩ := hGroup
    cases hTurn : b.chosen? msg.subject group with
    | none => rw [if_neg fun h => h.2 (chosen?_eq_none_iff.1 hTurn)]
    | some id =>
      have hMembers : b.idsOf msg.subject group ≠ [] := by
        intro hNone
        rw [chosen?_eq_none_iff.2 hNone] at hTurn
        cases hTurn
      rw [if_pos ⟨⟨rfl, rfl⟩, hMembers⟩, cursor]
      dsimp only
      rw [Table.find?_insert_self, Option.getD_some]
  · rw [if_neg fun h => hGroup h.1]
    split
    · rw [cursor]
      dsimp only
      rw [Table.find?_insert, if_neg fun hSame => hGroup (Prod.mk.inj hSame)]
      rfl
    · rfl

/-- A message counts on the turns of each group that it is for. -/
theorem cursor_deliverToGroups (msg : Message) (groups : List String) : ∀ {b : Bus}, groups.Nodup →
    (groups.foldl (deliverToGroup msg) b).cursor subject group =
      if (subject = msg.subject ∧ group ∈ groups) ∧ b.idsOf subject group ≠ [] then
        b.turnOf subject group + 1
      else b.cursor subject group := by
  induction groups with
  | nil =>
    intro b _
    rw [if_neg fun h => List.not_mem_nil h.1.2]
    rfl
  | cons first rest ih =>
    intro b hGroups
    obtain ⟨hNew, hRest⟩ := List.nodup_cons.1 hGroups
    have hCursor := b.cursor_deliverToGroup msg subject group first
    have hIds := b.idsOf_deliverToGroup msg subject group first
    rw [List.foldl_cons, ih hRest, turnOf_eq, hIds, hCursor, turnOf_eq]
    by_cases hFirst : group = first
    · subst hFirst
      rw [if_neg fun h => hNew h.1.2]
      simp only [List.mem_cons_self, and_true]
    · have hMem : group ∈ first :: rest ↔ group ∈ rest := by
        rw [List.mem_cons, or_iff_right hFirst]
      rw [if_neg (fun h => hFirst h.1.2 : ¬ ((subject = msg.subject ∧ group = first) ∧ _))]
      simp only [hMem]

theorem idsOf_ne_nil_iff : b.idsOf subject group ≠ [] ↔
    ∃ m ∈ b.members, m.subject = subject ∧ m.group = some group := by
  rw [Ne, idsOf_eq_nil_iff, membersOf, List.filter_eq_nil_iff]
  unfold isMember
  simp

theorem mem_groupsOn_iff : group ∈ b.groupsOn subject ↔ b.idsOf subject group ≠ [] := by
  rw [idsOf_ne_nil_iff, groupsOn, List.mem_eraseDups, List.mem_filterMap]
  refine exists_congr fun m => and_congr_right fun _ => ?_
  by_cases hSubject : m.subject = subject
  · rw [if_pos hSubject, and_iff_right hSubject]
  · rw [if_neg hSubject]
    exact ⟨fun h => (nomatch h), fun h => absurd h.1 hSubject⟩

theorem cursor_deliver (b : Bus) (msg : Message) :
    (b.deliver msg).cursor subject group =
      if subject = msg.subject ∧ b.idsOf subject group ≠ [] then b.turnOf subject group + 1
      else b.cursor subject group := by
  have hIds : (b.deliverTo (isPlain msg.subject) msg).idsOf subject group = b.idsOf subject group :=
    idsOf_map (Mailbox.stays_deliver (isPlain msg.subject) msg) rfl
  have hCursor : (b.deliverTo (isPlain msg.subject) msg).cursor subject group =
      b.cursor subject group := rfl
  have hGroups : (b.groupsOn msg.subject).Nodup := Engine.nodup_eraseDups _
  unfold deliver
  rw [cursor_deliverToGroups msg _ hGroups, turnOf_eq, hIds, hCursor, ← turnOf_eq]
  by_cases hSubject : subject = msg.subject
  · subst hSubject
    simp only [mem_groupsOn_iff, true_and, and_self]
  · rw [if_neg fun h => hSubject h.1.1, if_neg fun h => hSubject h.1]

end Cursor

-- ---------------------------------------------------------------------------
-- Steps
-- ---------------------------------------------------------------------------

/-- What holds of every bus that was not closed; in particular nobody subscribes to a subject that is
not valid. -/
structure Orderly (b : Bus) : Prop extends b.Sound where
  valid : ∀ m ∈ b.members, isValidSubject m.subject = true

/-- The member of a queue group that is selected in an operation, be there room in its buffer or
not. -/
def selected? (b : Bus) (subject group : String) : Op → Option SubscriptionId
  | .publish subject' _ => if subject' = subject then b.chosen? subject group else none
  | _ => none

section Steps

variable {b : Bus} {subject group : String}

theorem Orderly.step (h : b.Orderly) (op : Op) : (b.step op).Orderly := by
  refine ⟨h.toSound.step op, ?_⟩
  cases op with
  | subscribe subject' group' capacity =>
    by_cases hValid : isValidSubject subject' = true
    · rcases b.step_subscribe subject' group' capacity with hSame | hJoined
      · rw [hSame]
        exact h.valid
      · rw [hJoined]
        intro m hm
        rcases List.mem_append.1 hm with hOld | hNew
        · exact h.valid m hOld
        · rw [List.mem_singleton.1 hNew]
          exact hValid
    · rw [step_subscribe_of_invalid hValid]
      exact h.valid
  | publish subject' payload =>
    by_cases hValid : isValidSubject subject' = true
    · intro m hm
      rw [Bus.step, h.publish_eq hValid] at hm
      dsimp only at hm
      rw [members_deliver h.ids] at hm
      obtain ⟨x, hx, rfl⟩ := List.mem_map.1 hm
      rw [(Mailbox.stays_deliver _ _ x).2.1]
      exact h.valid x hx
    · rw [step_publish_of_invalid hValid]
      exact h.valid
  | receive id =>
    intro m hm
    obtain ⟨x, hx, rfl⟩ := List.mem_map.1 hm
    rw [(stays_receive id x).2.1]
    exact h.valid x hx
  | drop id => exact fun m hm => h.valid m (List.mem_filter.1 hm).1

theorem orderly_run (ops : List Op) : ∀ {b : Bus}, b.Orderly → (b.run ops).Orderly := by
  induction ops with
  | nil => exact fun h => h
  | cons op rest ih => exact fun h => ih (h.step op)

theorem orderly_empty : empty.Orderly := ⟨sound_empty, fun _ hm => nomatch hm⟩

theorem Orderly.isValidSubject_of_members (h : b.Orderly) (hMembers : b.idsOf subject group ≠ []) :
    isValidSubject subject = true := by
  obtain ⟨m, hm, hSubject, -⟩ := idsOf_ne_nil_iff.1 hMembers
  exact hSubject ▸ h.valid m hm

theorem selected?_publish (b : Bus) (subject group subject' payload : String) :
    b.selected? subject group (.publish subject' payload) =
      if subject' = subject then b.chosen? subject group else none := rfl

/-- An operation in which a member of a group is selected counts its turns on from that member's
place; no other operation touches them. -/
theorem Orderly.cursor_step (h : b.Orderly) (subject group : String) (op : Op) :
    (b.step op).cursor subject group =
      if (b.selected? subject group op).isSome then b.turnOf subject group + 1
      else b.cursor subject group := by
  cases op with
  | subscribe subject' group' capacity =>
    rcases b.step_subscribe subject' group' capacity with hSame | hJoined
    · rw [hSame]
      rfl
    · rw [hJoined]
      rfl
  | publish subject' payload =>
    have hSelects : (b.selected? subject group (.publish subject' payload)).isSome ↔
        subject = subject' ∧ b.idsOf subject group ≠ [] := by
      rw [selected?_publish]
      split
      · rename_i hSame
        rw [Option.isSome_iff_ne_none, Ne, chosen?_eq_none_iff, and_iff_right hSame.symm]
      · rename_i hOther
        exact ⟨fun hNone => (nomatch hNone), fun hBoth => absurd hBoth.1.symm hOther⟩
    by_cases hValid : isValidSubject subject' = true
    · rw [Bus.step, h.publish_eq hValid]
      dsimp only
      rw [cursor_deliver]
      simp only [hSelects]
    · rw [step_publish_of_invalid hValid, if_neg]
      rw [hSelects]
      rintro ⟨rfl, hMembers⟩
      exact hValid (h.isValidSubject_of_members hMembers)
  | receive id => rfl
  | drop id => rfl

/-- The turns of a group are counted no further than the members that it had at some time. -/
theorem cursor_run_le (ops : List Op) (subject group : String) : ∃ earlier, earlier <+: ops ∧
    (empty.run ops).cursor subject group ≤ ((empty.run earlier).idsOf subject group).length := by
  induction ops using List.reverseRecOn with
  | nil => exact ⟨[], List.prefix_refl _, Nat.zero_le _⟩
  | append_singleton before op ih =>
    have hOrderly : (empty.run before).Orderly := orderly_run before orderly_empty
    have hRun : empty.run (before ++ [op]) = (empty.run before).step op := List.foldl_append ..
    rw [hRun, hOrderly.cursor_step]
    split
    · rename_i hSelects
      refine ⟨before, List.prefix_append .., turnOf_lt fun hNone => ?_⟩
      -- nobody is selected in a group without members
      cases op with
      | publish subject' payload =>
        rw [selected?_publish, chosen?_eq_none_iff.2 hNone, ite_self] at hSelects
        cases hSelects
      | _ => cases hSelects
    · obtain ⟨earlier, hEarlier, hLe⟩ := ih
      exact ⟨earlier, hEarlier.trans (List.prefix_append ..), hLe⟩

end Steps

-- ---------------------------------------------------------------------------
-- Runs in which nobody joins or leaves
-- ---------------------------------------------------------------------------

/-- Whether nobody joins or leaves a queue group in a run. -/
def Steady (subject group : String) : Bus → List Op → Prop
  | _, [] => True
  | b, op :: rest =>
    (b.step op).idsOf subject group = b.idsOf subject group ∧ Steady subject group (b.step op) rest

/-- The members of a queue group that are selected for the messages of a run, in order. -/
def selections (subject group : String) : Bus → List Op → List SubscriptionId
  | _, [] => []
  | b, op :: rest =>
    (b.selected? subject group op).toList ++ selections subject group (b.step op) rest

section Rounds

variable {b : Bus} {subject group : String}

instance decidableSteady (subject group : String) : ∀ (b : Bus) (ops : List Op),
    Decidable (Steady subject group b ops)
  | _, [] => inferInstanceAs (Decidable True)
  | b, op :: rest =>
    have := decidableSteady subject group (b.step op) rest
    inferInstanceAs (Decidable (_ ∧ _))

/-- As long as a group keeps its members, its messages go round from the member whose turn it is, one
to each message. -/
theorem Orderly.getElem?_selections (ops : List Op) : ∀ {b : Bus}, b.Orderly →
    b.idsOf subject group ≠ [] → b.Steady subject group ops →
      (b.selections subject group ops).length = (published subject ops).length ∧
      ∀ i < (published subject ops).length, (b.selections subject group ops)[i]? =
        (b.idsOf subject group)[(b.cursor subject group + i) % (b.idsOf subject group).length]? := by
  induction ops with
  | nil => exact fun _ _ _ => ⟨rfl, fun i hi => absurd hi (Nat.not_lt_zero i)⟩
  | cons op rest ih =>
    intro b h hMembers hSteady
    obtain ⟨hIds, hRest⟩ := hSteady
    have hCursor := h.cursor_step subject group op
    obtain ⟨hLength, hLater⟩ := ih (h.step op) (hIds ▸ hMembers) hRest
    rw [hIds] at hLater
    have hPublished : published subject (op :: rest) =
        published subject [op] ++ published subject rest := by
      rw [published, published, published, List.flatMap_cons, List.flatMap_singleton]
    rw [selections, hPublished, List.length_append, List.length_append, hLength]
    by_cases hOwn : ∃ payload, op = .publish subject payload
    · obtain ⟨payload, rfl⟩ := hOwn
      have hOne : published subject [.publish subject payload] = [⟨subject, payload⟩] := by
        rw [published, List.flatMap_singleton]
        exact if_pos rfl
      obtain ⟨id, hTurn⟩ := Option.ne_none_iff_exists'.1 (mt chosen?_eq_none_iff.1 hMembers)
      have hSelected : b.selected? subject group (.publish subject payload) = some id :=
        (if_pos rfl).trans hTurn
      rw [hSelected, Option.isSome_some, if_pos rfl, turnOf_eq] at hCursor
      rw [hSelected, hOne]
      refine ⟨rfl, fun i hi => ?_⟩
      cases i with
      | zero =>
        rw [Nat.add_zero, ← chosen?_eq, hTurn]
        rfl
      | succ i =>
        -- the message before has counted the turns on by one
        have hNext : (b.cursor subject group % (b.idsOf subject group).length + 1 + i) %
            (b.idsOf subject group).length =
              (b.cursor subject group + (i + 1)) % (b.idsOf subject group).length := by
          rw [Nat.add_assoc, Nat.add_comm 1 i, Nat.mod_add_mod]
        rw [Option.toList_some, List.singleton_append, List.getElem?_cons_succ,
          hLater i (by simp only [List.length_singleton] at hi; omega), hCursor, hNext]
    · have hNobody : b.selected? subject group op = none ∧ published subject [op] = [] := by
        cases op with
        | publish subject' payload =>
          have hOther : ¬ subject' = subject := fun hSame => hOwn ⟨payload, hSame ▸ rfl⟩
          refine ⟨if_neg hOther, ?_⟩
          rw [published, List.flatMap_singleton]
          exact if_neg hOther
        | _ => exact ⟨rfl, rfl⟩
      rw [hNobody.1, Option.isSome_none, if_neg Bool.false_ne_true] at hCursor
      rw [hNobody.1, hNobody.2, ← hCursor]
      refine ⟨rfl, fun i hi => ?_⟩
      rw [Option.toList_none, List.nil_append]
      exact hLater i (by simpa using hi)

/-- As many messages as members: the turns go once round the group. -/
theorem Orderly.selections_eq_rotate (h : b.Orderly) {ops : List Op}
    (hMembers : b.idsOf subject group ≠ []) (hSteady : b.Steady subject group ops)
    (hCount : (published subject ops).length = (b.idsOf subject group).length) :
    b.selections subject group ops =
      (b.idsOf subject group).rotate (b.cursor subject group) := by
  obtain ⟨hLength, hAt⟩ := h.getElem?_selections ops hMembers hSteady
  apply List.ext_getElem?
  intro i
  by_cases hi : i < (b.idsOf subject group).length
  · rw [hAt i (hCount ▸ hi), List.getElem?_rotate hi, Nat.add_comm]
  · rw [List.getElem?_eq_none, List.getElem?_eq_none]
    · rw [List.length_rotate]
      exact Nat.not_lt.1 hi
    · rw [hLength, hCount]
      exact Nat.not_lt.1 hi

theorem Orderly.nodup_idsOf (h : b.Orderly) : (b.idsOf subject group).Nodup :=
  h.ids.sublist (List.filter_sublist.map _)

/-- A message for a group goes to the member that is selected, if there is room, and to no other
member. -/
theorem Orderly.membersOf_publish (h : b.Orderly) (hMembers : b.membersOf subject group ≠ [])
    (payload : String) : ∃ (b' : Bus) (x : Mailbox), b.publish subject payload = .ok b' ∧
      x ∈ b.membersOf subject group ∧
      b.selected? subject group (.publish subject payload) = some x.id ∧
      b'.membersOf subject group = (b.membersOf subject group).map fun m =>
        if m.id = x.id ∧ m.buffer.length < m.capacity then
          { m with buffer := m.buffer ++ [⟨subject, payload⟩] }
        else m := by
  have hValid := h.isValidSubject_of_members (mt idsOf_eq_nil_iff.1 hMembers)
  have hTurn : b.turnOf subject group < (b.membersOf subject group).length :=
    Nat.mod_lt _ (List.length_pos_of_ne_nil hMembers)
  have hChosen : b.chosen? subject group =
      some ((b.membersOf subject group)[b.turnOf subject group]).id := by
    rw [chosen?, List.getElem?_eq_getElem hTurn, Option.map_some]
  refine ⟨_, _, h.publish_eq hValid payload, List.getElem_mem hTurn,
    (if_pos rfl).trans hChosen, ?_⟩
  rw [membersOf_map (Mailbox.stays_deliver _ _) (members_deliver h.ids _)]
  refine List.map_congr_left fun m hm => ?_
  obtain ⟨-, hMember⟩ := List.mem_filter.1 hm
  unfold isMember at hMember
  rw [Bool.and_eq_true, decide_eq_true_eq, decide_eq_true_eq] at hMember
  have hOwn : b.chooses subject m = true ↔
      m.id = ((b.membersOf subject group)[b.turnOf subject group]).id := by
    rw [chooses_iff, hMember.1, hMember.2]
    simp only [true_and, reduceCtorEq, false_or, Option.some.injEq, exists_eq_left', hChosen,
      eq_comm]
  unfold Mailbox.deliver Mailbox.hasRoom
  by_cases hSelected : m.id = ((b.membersOf subject group)[b.turnOf subject group]).id
  · rw [if_pos (hOwn.2 hSelected)]
    simp only [hSelected, true_and, decide_eq_true_eq]
  · rw [if_neg (mt hOwn.1 hSelected), if_neg fun hBoth => hSelected hBoth.1]

end Rounds

/-- Queue groups are fair. Whatever was done with a bus, the turns of a group are counted no further
than the most members that it had at any time. If it has members, a message selects one of them,
which gets it unless its buffer is full, while no other member does. And while nobody joins or
leaves, as many messages on the subject as there are members select each of them once: in the order
in which they joined, from the one at which the count stands. -/
theorem queue_groups_are_fair (before : List Op) (subject group : String) :
    let b := empty.run before
    (∃ earlier, earlier <+: before ∧
      b.cursor subject group ≤ ((empty.run earlier).membersOf subject group).length) ∧
    (b.membersOf subject group ≠ [] →
      (∀ payload, ∃ (b' : Bus) (x : Mailbox), b.publish subject payload = .ok b' ∧
        x ∈ b.membersOf subject group ∧
        b.selected? subject group (.publish subject payload) = some x.id ∧
        b'.membersOf subject group = (b.membersOf subject group).map fun m =>
          if m.id = x.id ∧ m.buffer.length < m.capacity then
            { m with buffer := m.buffer ++ [⟨subject, payload⟩] }
          else m) ∧
      ∀ during, b.Steady subject group during →
        (published subject during).length = (b.membersOf subject group).length →
          b.selections subject group during =
            (b.idsOf subject group).rotate (b.cursor subject group) ∧
          ∀ m ∈ b.membersOf subject group,
            (b.selections subject group during).count m.id = 1) := by
  intro b
  have h : b.Orderly := orderly_run before orderly_empty
  refine ⟨?_, fun hMembers => ⟨fun payload => h.membersOf_publish hMembers payload, ?_⟩⟩
  · obtain ⟨earlier, hEarlier, hLe⟩ := cursor_run_le before subject group
    exact ⟨earlier, hEarlier, length_idsOf .. ▸ hLe⟩
  · intro during hSteady hCount
    have hRound := h.selections_eq_rotate (mt idsOf_eq_nil_iff.1 hMembers) hSteady
      (hCount.trans (length_idsOf ..).symm)
    refine ⟨hRound, fun m hm => ?_⟩
    have hMem : m.id ∈ b.selections subject group during := by
      rw [hRound, List.mem_rotate]
      exact List.mem_map_of_mem hm
    have hNodup : (b.selections subject group during).Nodup := by
      rw [hRound, List.nodup_rotate]
      exact h.nodup_idsOf
    exact List.count_eq_one_of_mem hNodup hMem

/-- A group of three with room for one message each gets three, and then loses its first member. -/
def worn : List Op :=
  [.subscribe "s" (some "g") 1, .subscribe "s" (some "g") 1, .subscribe "s" (some "g") 1,
    .publish "s" "first", .publish "s" "second", .publish "s" "third", .drop 0]

/-- Two messages for the two that are left, between other business on the bus. -/
def round : List Op :=
  [.publish "s" "fourth", .publish "other" "aside", .subscribe "s" (some "h") 1, .receive 2,
    .publish "s" "fifth"]

/-- The count stands beyond the members that are left, whose buffers are full; each of them has its
turn. -/
theorem each_of_two_is_selected :
    (empty.run worn).cursor "s" "g" = 3 ∧ (empty.run worn).idsOf "s" "g" = [1, 2] ∧
      (empty.run worn).selections "s" "g" round = [2, 1] := by
  obtain ⟨-, hFair⟩ := queue_groups_are_fair worn "s" "g"
  obtain ⟨-, hRounds⟩ := hFair (by decide +kernel)
  obtain ⟨hRound, -⟩ := hRounds round (by decide +kernel) (by decide +kernel)
  have hCursor : (empty.run worn).cursor "s" "g" = 3 := by decide +kernel
  have hIds : (empty.run worn).idsOf "s" "g" = [1, 2] := by decide +kernel
  rw [hCursor, hIds] at hRound
  exact ⟨hCursor, hIds, hRound⟩

end Bus

end TransitForecast
