import TransitForecast.Proofs.Forming

/-!
# TransitForecast — delivery on the bus

What any number of subscriptions get from the bus while others join, take messages out and leave. A
message goes to every plain subscriber of its subject and to one member of each queue group there,
and to nobody else; a buffer that is full loses it. The members of a group are counted as they are
when the message comes, so a turn that was counted before some of them left still falls on one.

From the delivery of one message follows what a subscription gets in a whole run: messages of its
subject that were published since it joined, each once at most, in the order of publishing.

## Results

* `members_deliver` — who gets a message.
* `sound_run`       — subscriptions have ids of their own, whatever was done before.
* `Sound.delivers`  — plain subscribers and one member of each group, and nobody else.
* `Sound.sublist_published` — what a subscription gets comes from what was published, in order.
* `publish_reaches_plain_subscribers_and_one_of_each_group` — all of it, for whole runs.
-/

namespace TransitForecast

/-- Whether a change of mailboxes leaves them with their owners, subjects and groups. -/
def Mailbox.Stays (f : Mailbox → Mailbox) : Prop :=
  ∀ m, (f m).id = m.id ∧ (f m).subject = m.subject ∧ (f m).group = m.group

theorem Mailbox.stays_deliver (accepts : Mailbox → Bool) (msg : Message) :
    Stays fun m => if accepts m then m.deliver msg else m := by
  intro m
  dsimp only
  unfold deliver
  split
  · split
    · exact ⟨rfl, rfl, rfl⟩
    · exact ⟨rfl, rfl, rfl⟩
  · exact ⟨rfl, rfl, rfl⟩

namespace Bus

-- ---------------------------------------------------------------------------
-- Turns
-- ---------------------------------------------------------------------------

section Turns

variable {b c : Bus} {f : Mailbox → Mailbox} {subject group : String}

theorem ids_map (hStays : Mailbox.Stays f) (h : c.members = b.members.map f) :
    c.members.map Mailbox.id = b.members.map Mailbox.id := by
  rw [h, List.map_map]
  exact List.map_congr_left fun m _ => (hStays m).1

theorem membersOf_map (hStays : Mailbox.Stays f) (h : c.members = b.members.map f) :
    c.membersOf subject group = (b.membersOf subject group).map f := by
  have hTest : isMember subject group ∘ f = isMember subject group := by
    funext m
    simp only [isMember, Function.comp_apply, (hStays m).2.1, (hStays m).2.2]
  unfold membersOf
  rw [h, List.filter_map, hTest]

/-- Whose turn it is depends on who is a member, not on what the members hold. -/
theorem chosen?_map (hStays : Mailbox.Stays f) (h : c.members = b.members.map f)
    (hTurn : c.turns.find? (subject, group) = b.turns.find? (subject, group)) :
    c.chosen? subject group = b.chosen? subject group := by
  have hMembers : c.membersOf subject group = (b.membersOf subject group).map f :=
    membersOf_map hStays h
  have hTurnOf : c.turnOf subject group = b.turnOf subject group := by
    rw [turnOf, turnOf, hTurn, hMembers, List.length_map]
  unfold chosen?
  rw [hTurnOf, hMembers, List.getElem?_map, Option.map_map]
  congr 1
  funext m
  exact (hStays m).1

/-- Whoever has the turn is a member of the group. -/
theorem member_of_chosen? {id : SubscriptionId} (h : b.chosen? subject group = some id) :
    ∃ m ∈ b.members, m.id = id ∧ m.subject = subject ∧ m.group = some group := by
  obtain ⟨m, hAt, rfl⟩ := Option.map_eq_some_iff.1 h
  obtain ⟨hMem, hMember⟩ := List.mem_filter.1 (List.mem_of_getElem? hAt)
  unfold isMember at hMember
  rw [Bool.and_eq_true, decide_eq_true_eq, decide_eq_true_eq] at hMember
  exact ⟨m, hMem, rfl, hMember⟩

/-- In a group with members one of them has the turn. -/
theorem exists_chosen? {m : Mailbox} (hMem : m ∈ b.members) (hSubject : m.subject = subject)
    (hGroup : m.group = some group) : ∃ id, b.chosen? subject group = some id := by
  have hMember : m ∈ b.membersOf subject group := by
    refine List.mem_filter.2 ⟨hMem, ?_⟩
    unfold isMember
    rw [Bool.and_eq_true, decide_eq_true_eq, decide_eq_true_eq]
    exact ⟨hSubject, hGroup⟩
  have hTurn : b.turnOf subject group < (b.membersOf subject group).length :=
    Nat.mod_lt _ (List.length_pos_of_mem hMember)
  unfold chosen?
  rw [List.getElem?_eq_getElem hTurn]
  exact ⟨_, rfl⟩

end Turns

-- ---------------------------------------------------------------------------
-- One message
-- ---------------------------------------------------------------------------

/-- Whether a mailbox is chosen for a message on a subject, be there room in it or not. -/
def chooses (b : Bus) (subject : String) (m : Mailbox) : Bool :=
  isPlain subject m ||
    (m.subject = subject && m.group.any fun g => b.chosen? subject g = some m.id)

section Deliver

variable {b : Bus} {msg : Message}

theorem members_deliverToGroup (b : Bus) (msg : Message) (group : String) :
    (deliverToGroup msg b group).members = b.members.map fun m =>
      if decide (b.chosen? msg.subject group = some m.id) then m.deliver msg else m := by
  unfold deliverToGroup
  cases b.chosen? msg.subject group with
  | none => simp
  | some id =>
    refine List.map_congr_left fun m _ => ?_
    simp only [Option.some.injEq, eq_comm]

/-- A message for one group leaves the turns of the others. -/
theorem chosen?_deliverToGroup {group other : String} (h : other ≠ group) :
    (deliverToGroup msg b group).chosen? msg.subject other = b.chosen? msg.subject other := by
  refine chosen?_map (Mailbox.stays_deliver _ msg) (b.members_deliverToGroup msg group) ?_
  unfold deliverToGroup
  split
  · rw [Table.find?_insert, if_neg fun hSame => h (congrArg Prod.snd hSame)]
  · rfl

/-- A message for some groups goes to whoever has the turn in one of them. -/
theorem members_deliverToGroups (msg : Message) (groups : List String) : ∀ {b : Bus},
    (b.members.map Mailbox.id).Nodup → groups.Nodup →
      (groups.foldl (deliverToGroup msg) b).members = b.members.map fun m =>
        if groups.any (fun g => b.chosen? msg.subject g = some m.id) then m.deliver msg else m := by
  induction groups with
  | nil => exact fun _ _ => (List.map_id' _).symm
  | cons group rest ih =>
    intro b hIds hGroups
    obtain ⟨hNew, hRest⟩ := List.nodup_cons.1 hGroups
    have hMembers := b.members_deliverToGroup msg group
    have hStays := Mailbox.stays_deliver
      (fun m => decide (b.chosen? msg.subject group = some m.id)) msg
    rw [List.foldl_cons, ih (ids_map hStays hMembers ▸ hIds) hRest, hMembers, List.map_map]
    refine List.map_congr_left fun m hm => ?_
    have hOthers : (rest.any fun g =>
        (deliverToGroup msg b group).chosen? msg.subject g = some m.id) =
          rest.any fun g => b.chosen? msg.subject g = some m.id := by
      rw [Bool.eq_iff_iff, List.any_eq_true, List.any_eq_true]
      refine exists_congr fun g => and_congr_right fun hg => ?_
      rw [chosen?_deliverToGroup (ne_of_mem_of_not_mem hg hNew)]
    rw [Function.comp_apply, (hStays m).1, hOthers, List.any_cons]
    by_cases hTurn : b.chosen? msg.subject group = some m.id
    · -- a member of this group has no turn in another
      have hOnce : (rest.any fun g => b.chosen? msg.subject g = some m.id) = false := by
        rw [List.any_eq_false]
        intro g hg hOther
        obtain ⟨x, hx, hxId, -, hxGroup⟩ := member_of_chosen? hTurn
        obtain ⟨y, hy, hyId, -, hyGroup⟩ := member_of_chosen? (of_decide_eq_true hOther)
        obtain rfl := List.inj_on_of_nodup_map hIds hx hy (hxId.trans hyId.symm)
        rw [hxGroup, Option.some.injEq] at hyGroup
        exact hNew (hyGroup ▸ hg)
      simp [hTurn, hOnce]
    · simp [hTurn]

/-- A message goes to the mailboxes that are chosen for it, and to no other. -/
theorem members_deliver (hIds : (b.members.map Mailbox.id).Nodup) (msg : Message) :
    (b.deliver msg).members = b.members.map fun m =>
      if b.chooses msg.subject m then m.deliver msg else m := by
  have hStays := Mailbox.stays_deliver (isPlain msg.subject) msg
  have hPlain : (b.deliverTo (isPlain msg.subject) msg).members =
      b.members.map fun m => if isPlain msg.subject m then m.deliver msg else m := rfl
  unfold deliver
  rw [members_deliverToGroups msg (b.groupsOn msg.subject) (ids_map hStays hPlain ▸ hIds)
    (Engine.nodup_eraseDups _), hPlain, List.map_map]
  refine List.map_congr_left fun m hm => ?_
  have hSame : ∀ g, (b.deliverTo (isPlain msg.subject) msg).chosen? msg.subject g =
      b.chosen? msg.subject g := fun g => chosen?_map hStays hPlain rfl
  -- the groups with a turn for a mailbox are its own, if that is on the subject
  have hGroups : ((b.groupsOn msg.subject).any fun g => b.chosen? msg.subject g = some m.id) =
      (m.subject = msg.subject && m.group.any fun g => b.chosen? msg.subject g = some m.id) := by
    rw [Bool.eq_iff_iff, List.any_eq_true, Bool.and_eq_true, decide_eq_true_eq, Option.any_eq_true]
    constructor
    · rintro ⟨g, -, hTurn⟩
      obtain ⟨x, hx, hId, hSubject, hGroup⟩ := member_of_chosen? (of_decide_eq_true hTurn)
      obtain rfl := List.inj_on_of_nodup_map hIds hx hm hId
      exact ⟨hSubject, g, hGroup, hTurn⟩
    · rintro ⟨hSubject, g, hGroup, hTurn⟩
      refine ⟨g, ?_, hTurn⟩
      unfold groupsOn
      rw [List.mem_eraseDups, List.mem_filterMap]
      exact ⟨m, hm, by rw [if_pos hSubject, hGroup]⟩
  simp only [Function.comp_apply, (hStays m).1, hSame, hGroups, chooses]
  by_cases hOwn : isPlain msg.subject m = true
  · -- a plain subscriber is in no group
    have hNone : m.group = none := by
      unfold isPlain at hOwn
      rw [Bool.and_eq_true, Option.isNone_iff_eq_none] at hOwn
      exact hOwn.2
    simp [hOwn, hNone]
  · simp [hOwn]

theorem frame_deliver (b : Bus) (msg : Message) :
    (b.deliver msg).nextId = b.nextId ∧ (b.deliver msg).closed = b.closed := by
  unfold deliver
  refine List.foldlRecOn (motive := fun c => c.nextId = b.nextId ∧ c.closed = b.closed)
    (b.groupsOn msg.subject) (deliverToGroup msg) (b := b.deliverTo (isPlain msg.subject) msg)
    ⟨rfl, rfl⟩ fun c h group _ => ?_
  unfold deliverToGroup
  split
  · exact h
  · exact h

end Deliver

-- ---------------------------------------------------------------------------
-- Runs
-- ---------------------------------------------------------------------------

/-- What may be done with a bus. -/
inductive Op
  | subscribe (subject : String) (group : Option String) (capacity : Nat)
  | publish (subject payload : String)
  | receive (id : SubscriptionId)
  | drop (id : SubscriptionId)

/-- The bus after an operation; one that is refused leaves it as it is. -/
def step (b : Bus) : Op → Bus
  | .subscribe subject group capacity =>
    if asksTooMuch subject capacity then b
    else
      match b.subscribe subject group capacity with
      | .ok (_, b') => b'
      | .error _ => b
  | .publish subject payload =>
    match b.publish subject payload with
    | .ok b' => b'
    | .error _ => b
  | .receive id => (b.receive id).2
  | .drop id => b.drop id

/-- The bus after operations in order. -/
def run (b : Bus) (ops : List Op) : Bus := ops.foldl step b

/-- What a subscription takes out of its buffer in an operation. -/
def taken (b : Bus) (id : SubscriptionId) : Op → List Message
  | .receive id' => if id' = id then (b.receive id).1.toList else []
  | _ => []

/-- What a subscription takes out of its buffer in a run. -/
def received (id : SubscriptionId) : Bus → List Op → List Message
  | _, [] => []
  | b, op :: rest => b.taken id op ++ received id (b.step op) rest

/-- What is published on a subject, in order. -/
def published (subject : String) (ops : List Op) : List Message :=
  ops.flatMap fun
    | .publish subject' payload => if subject' = subject then [⟨subject', payload⟩] else []
    | _ => []

/-- What holds of every bus that was not closed: ids are given once, and nobody has one yet that is
still to be given. -/
structure Sound (b : Bus) : Prop where
  ids : (b.members.map Mailbox.id).Nodup
  fresh : ∀ m ∈ b.members, m.id < b.nextId
  opened : b.closed = false

/-- What can become of the subscriptions in one operation. -/
inductive Change (b c : Bus) : Prop
  | kept {f : Mailbox → Mailbox} : Mailbox.Stays f → c.members = b.members.map f →
    c.nextId = b.nextId → Change b c
  | joined {m : Mailbox} : m.id = b.nextId → c.members = b.members ++ [m] →
    c.nextId = b.nextId + 1 → Change b c
  | left {id : SubscriptionId} : c.members = b.members.filter (fun m => m.id ≠ id) →
    c.nextId = b.nextId → Change b c

theorem Change.refl (b : Bus) : Change b b :=
  .kept (f := fun m => m) (fun _ => ⟨rfl, rfl, rfl⟩) (List.map_id' _).symm rfl

section Runs

variable {b : Bus}

theorem Sound.publish_eq (h : b.Sound) {subject : String}
    (hValid : isValidSubject subject = true) (payload : String) :
    b.publish subject payload = .ok (b.deliver ⟨subject, payload⟩) := by
  rw [publish, h.opened, if_neg Bool.false_ne_true, if_pos hValid]

theorem step_publish_of_invalid {subject : String} (h : ¬ isValidSubject subject = true)
    (payload : String) : b.step (.publish subject payload) = b := by
  unfold step publish
  dsimp only
  rw [if_neg h]
  split
  · rename_i hPublished
    split at hPublished
    · cases hPublished
    · cases hPublished
  · rfl

theorem step_subscribe_of_invalid {subject : String} (h : ¬ isValidSubject subject = true)
    (group : Option String) (capacity : Nat) :
    b.step (.subscribe subject group capacity) = b := by
  unfold step subscribe
  dsimp only
  rw [if_neg h]
  split
  · rfl
  · rfl

/-- A subscription joins, unless it is refused. -/
theorem step_subscribe (b : Bus) (subject : String) (group : Option String) (capacity : Nat) :
    b.step (.subscribe subject group capacity) = b ∨
      b.step (.subscribe subject group capacity) = { b with
        members := b.members ++ [⟨b.nextId, subject, group, max capacity 1, []⟩]
        nextId := b.nextId + 1 } := by
  unfold step subscribe
  dsimp only
  by_cases hTooMuch : asksTooMuch subject capacity = true
  · exact .inl (if_pos hTooMuch)
  · rw [if_neg hTooMuch]
    by_cases hValid : isValidSubject subject = true
    · rw [if_pos hValid]
      exact .inr rfl
    · rw [if_neg hValid]
      exact .inl rfl

theorem subject_of_chooses {subject : String} {m : Mailbox} (h : b.chooses subject m = true) :
    m.subject = subject := by
  unfold chooses isPlain at h
  rw [Bool.or_eq_true, Bool.and_eq_true, Bool.and_eq_true, decide_eq_true_eq] at h
  rcases h with ⟨hSubject, -⟩ | ⟨hSubject, -⟩
  · exact hSubject
  · exact hSubject

theorem stays_receive (id : SubscriptionId) :
    Mailbox.Stays fun m => if m.id = id then { m with buffer := m.buffer.tail } else m := by
  intro m
  dsimp only
  split
  · exact ⟨rfl, rfl, rfl⟩
  · exact ⟨rfl, rfl, rfl⟩

/-- An operation changes subscriptions in one of these ways, and does not close the bus. -/
theorem Sound.change (h : b.Sound) (op : Op) :
    Change b (b.step op) ∧ (b.step op).closed = b.closed := by
  cases op with
  | subscribe subject group capacity =>
    rcases b.step_subscribe subject group capacity with hSame | hJoined
    · rw [hSame]
      exact ⟨.refl b, rfl⟩
    · rw [hJoined]
      exact ⟨.joined rfl rfl rfl, rfl⟩
  | publish subject payload =>
    by_cases hValid : isValidSubject subject = true
    · have hStep : b.step (.publish subject payload) = b.deliver ⟨subject, payload⟩ := by
        rw [step, h.publish_eq hValid]
      obtain ⟨hNext, hClosed⟩ := b.frame_deliver ⟨subject, payload⟩
      rw [hStep]
      exact ⟨.kept (Mailbox.stays_deliver _ _) (members_deliver h.ids _) hNext, hClosed⟩
    · rw [step_publish_of_invalid hValid]
      exact ⟨.refl b, rfl⟩
  | receive id => exact ⟨.kept (stays_receive id) rfl rfl, rfl⟩
  | drop id => exact ⟨.left rfl rfl, rfl⟩

theorem Sound.of_change {c : Bus} (h : b.Sound) (hChange : Change b c)
    (hClosed : c.closed = b.closed) : c.Sound := by
  have hOpened : c.closed = false := hClosed.trans h.opened
  cases hChange with
  | kept hStays hMembers hNext =>
    refine ⟨ids_map hStays hMembers ▸ h.ids, fun m hm => ?_, hOpened⟩
    rw [hMembers] at hm
    obtain ⟨x, hx, rfl⟩ := List.mem_map.1 hm
    rw [(hStays x).1, hNext]
    exact h.fresh x hx
  | @joined new hNew hMembers hNext =>
    refine ⟨?_, fun m hm => ?_, hOpened⟩
    · rw [hMembers, List.map_append, List.nodup_append]
      refine ⟨h.ids, List.nodup_singleton _, fun i hi j hj => ?_⟩
      obtain ⟨x, hx, rfl⟩ := List.mem_map.1 hi
      rw [List.mem_singleton.1 hj, hNew]
      exact Nat.ne_of_lt (h.fresh x hx)
    · rw [hMembers] at hm
      rcases List.mem_append.1 hm with hOld | hLast
      · rw [hNext]
        exact Nat.lt_succ_of_lt (h.fresh m hOld)
      · rw [List.mem_singleton.1 hLast, hNew, hNext]
        exact Nat.lt_succ_self _
  | left hMembers hNext =>
    refine ⟨?_, fun m hm => ?_, hOpened⟩
    · rw [hMembers]
      exact h.ids.sublist (List.filter_sublist.map _)
    · rw [hMembers] at hm
      rw [hNext]
      exact h.fresh m (List.mem_filter.1 hm).1

/-- No operation breaks a sound bus. -/
theorem Sound.step (h : b.Sound) (op : Op) : (b.step op).Sound :=
  h.of_change (h.change op).1 (h.change op).2

theorem sound_run (ops : List Op) : ∀ {b : Bus}, b.Sound → (b.run ops).Sound := by
  induction ops with
  | nil => exact fun h => h
  | cons op rest ih => exact fun h => ih (h.step op)

theorem sound_empty : empty.Sound := ⟨List.nodup_nil, fun _ hm => (nomatch hm), rfl⟩

-- ---------------------------------------------------------------------------
-- One subscription
-- ---------------------------------------------------------------------------

theorem Sound.find?_id (h : b.Sound) {m : Mailbox} (hm : m ∈ b.members) :
    b.members.find? (fun x => x.id = m.id) = some m := by
  cases hFound : b.members.find? fun x => x.id = m.id with
  | none => simpa using List.find?_eq_none.1 hFound m hm
  | some x =>
    have hId : x.id = m.id := by simpa using List.find?_some hFound
    rw [List.inj_on_of_nodup_map h.ids (List.mem_of_find?_eq_some hFound) hm hId]

theorem taken_of_gone {id : SubscriptionId} (hGone : ∀ m ∈ b.members, m.id ≠ id) (op : Op) :
    b.taken id op = [] := by
  have hNone : b.members.find? (fun m => m.id = id) = none :=
    List.find?_eq_none.2 fun m hm => by simpa using hGone m hm
  cases op with
  | receive id' =>
    unfold taken receive
    dsimp only
    rw [hNone]
    split
    · rfl
    · rfl
  | _ => rfl

/-- A subscription that has ended gets nothing any more, for nobody is given its id again. -/
theorem Sound.gone {id : SubscriptionId} (ops : List Op) : ∀ {b : Bus}, b.Sound →
    id < b.nextId → (∀ m ∈ b.members, m.id ≠ id) →
      b.received id ops = [] ∧ (b.run ops).buffered id = [] := by
  induction ops with
  | nil =>
    intro b h hGiven hGone
    have hNone : b.members.find? (fun m => m.id = id) = none :=
      List.find?_eq_none.2 fun m hm => by simpa using hGone m hm
    refine ⟨rfl, ?_⟩
    show b.buffered id = []
    rw [buffered, hNone]
    rfl
  | cons op rest ih =>
    intro b h hGiven hGone
    have hStill : id < (b.step op).nextId ∧ ∀ m ∈ (b.step op).members, m.id ≠ id := by
      cases (h.change op).1 with
      | kept hStays hMembers hNext =>
        refine ⟨hNext ▸ hGiven, fun m hm => ?_⟩
        rw [hMembers] at hm
        obtain ⟨x, hx, rfl⟩ := List.mem_map.1 hm
        rw [(hStays x).1]
        exact hGone x hx
      | joined hNew hMembers hNext =>
        refine ⟨hNext ▸ Nat.lt_succ_of_lt hGiven, fun m hm => ?_⟩
        rw [hMembers] at hm
        rcases List.mem_append.1 hm with hOld | hLast
        · exact hGone m hOld
        · rw [List.mem_singleton.1 hLast, hNew]
          exact (Nat.ne_of_lt hGiven).symm
      | left hMembers hNext =>
        refine ⟨hNext ▸ hGiven, fun m hm => ?_⟩
        rw [hMembers] at hm
        exact hGone m (List.mem_filter.1 hm).1
    obtain ⟨hReceived, hBuffered⟩ := ih (h.step op) hStill.1 hStill.2
    refine ⟨?_, hBuffered⟩
    rw [received, taken_of_gone hGone, hReceived]
    rfl

/-- In an operation that does not end it, a subscription keeps its place, and what it takes out and
still holds comes from what it held and what is published on its subject. -/
theorem Sound.follow (h : b.Sound) {m : Mailbox} (hm : m ∈ b.members) {op : Op}
    (hStays : op ≠ .drop m.id) : ∃ m' ∈ (b.step op).members, m'.id = m.id ∧
      m'.subject = m.subject ∧
      (b.taken m.id op ++ m'.buffer).Sublist (m.buffer ++ published m.subject [op]) := by
  cases op with
  | subscribe subject group capacity =>
    refine ⟨m, ?_, rfl, rfl, by simp [taken, published]⟩
    rcases b.step_subscribe subject group capacity with hSame | hJoined
    · rw [hSame]
      exact hm
    · rw [hJoined]
      exact List.mem_append_left _ hm
  | publish subject payload =>
    by_cases hValid : isValidSubject subject = true
    · have hStep : b.step (.publish subject payload) = b.deliver ⟨subject, payload⟩ := by
        rw [Bus.step, h.publish_eq hValid]
      have hMember : (if b.chooses subject m then m.deliver ⟨subject, payload⟩ else m) ∈
          (b.deliver ⟨subject, payload⟩).members := by
        rw [members_deliver h.ids]
        exact List.mem_map_of_mem hm
      obtain ⟨hId, hSubject, -⟩ :=
        Mailbox.stays_deliver (b.chooses subject) ⟨subject, payload⟩ m
      rw [hStep]
      refine ⟨_, hMember, hId, hSubject, ?_⟩
      rw [show b.taken m.id (.publish subject payload) = [] from rfl, List.nil_append]
      by_cases hChosen : b.chooses subject m = true
      · rw [if_pos hChosen, Mailbox.deliver]
        split
        · rw [published, List.flatMap_singleton]
          dsimp only
          rw [if_pos (subject_of_chooses hChosen).symm]
        · exact List.sublist_append_left _ _
      · rw [if_neg hChosen]
        exact List.sublist_append_left _ _
    · rw [step_publish_of_invalid hValid]
      exact ⟨m, hm, rfl, rfl, List.sublist_append_left _ _⟩
  | receive id =>
    refine ⟨_, List.mem_map_of_mem hm, (stays_receive id m).1, (stays_receive id m).2.1, ?_⟩
    by_cases hOwn : m.id = id
    · subst hOwn
      have hTaken : b.taken m.id (.receive m.id) = m.buffer.head?.toList := by
        rw [taken, if_pos rfl, receive, h.find?_id hm]
        rfl
      rw [hTaken, if_pos rfl]
      cases m.buffer with
      | nil => exact List.nil_sublist _
      | cons first rest => exact List.sublist_append_left _ _
    · rw [taken, if_neg (Ne.symm hOwn), if_neg hOwn]
      exact List.sublist_append_left _ _
  | drop id =>
    refine ⟨m, List.mem_filter.2 ⟨hm, ?_⟩, rfl, rfl, by simp [taken, published]⟩
    exact decide_eq_true fun hSame => hStays (hSame ▸ rfl)

/-- What a subscription gets, and what it still holds, comes in order from what it held before and
what is published on its subject since. -/
theorem Sound.sublist_published (ops : List Op) : ∀ {b : Bus}, b.Sound →
    ∀ {m : Mailbox}, m ∈ b.members →
      (b.received m.id ops ++ (b.run ops).buffered m.id).Sublist
        (m.buffer ++ published m.subject ops) := by
  induction ops with
  | nil =>
    intro b h m hm
    have hBuffered : b.buffered m.id = m.buffer := by
      rw [buffered, h.find?_id hm]
      rfl
    show (b.buffered m.id).Sublist _
    rw [hBuffered]
    exact List.sublist_append_left _ _
  | cons op rest ih =>
    intro b h m hm
    have hPublished : published m.subject (op :: rest) =
        published m.subject [op] ++ published m.subject rest := by
      rw [published, published, published, List.flatMap_cons, List.flatMap_singleton]
    by_cases hDropped : op = .drop m.id
    · subst hDropped
      have hGone : ∀ x ∈ (b.step (.drop m.id)).members, x.id ≠ m.id := fun x hx =>
        of_decide_eq_true (List.mem_filter.1 hx).2
      obtain ⟨hReceived, hBuffered⟩ := Sound.gone rest (h.step _) (h.fresh m hm) hGone
      rw [received, hReceived, show b.run (.drop m.id :: rest) = (b.step (.drop m.id)).run rest
        from rfl, hBuffered]
      exact List.nil_sublist _
    · obtain ⟨m', hm', hId, hSubject, hOne⟩ := h.follow hm hDropped
      have hRest := ih (h.step op) hm'
      rw [hId, hSubject] at hRest
      rw [received, hPublished, List.append_assoc, ← List.append_assoc m.buffer]
      refine .trans ?_ (hOne.append (.refl _))
      rw [List.append_assoc]
      exact (List.Sublist.refl _).append hRest

end Runs

-- ---------------------------------------------------------------------------
-- Whole runs
-- ---------------------------------------------------------------------------

/-- Of a plain subscriber and of the members of a group those are chosen who should be. -/
theorem chooses_iff {b : Bus} {subject : String} {m : Mailbox} :
    b.chooses subject m = true ↔ m.subject = subject ∧
      (m.group = none ∨ ∃ g, m.group = some g ∧ b.chosen? subject g = some m.id) := by
  unfold chooses isPlain
  cases m.group with
  | none => simp
  | some g => simp

/-- In a group with members exactly one of them is chosen. -/
theorem Sound.existsUnique_chosen {b : Bus} (h : b.Sound) {subject group : String} {m : Mailbox}
    (hMem : m ∈ b.members) (hSubject : m.subject = subject) (hGroup : m.group = some group) :
    ∃! x, x ∈ b.members ∧ x.subject = subject ∧ x.group = some group ∧
      b.chooses subject x = true := by
  obtain ⟨id, hTurn⟩ := exists_chosen? hMem hSubject hGroup
  obtain ⟨x, hx, rfl, hxSubject, hxGroup⟩ := member_of_chosen? hTurn
  refine ⟨x, ⟨hx, hxSubject, hxGroup, chooses_iff.2 ⟨hxSubject, .inr ⟨group, hxGroup, hTurn⟩⟩⟩, ?_⟩
  rintro y ⟨hy, -, hyGroup, hChosen⟩
  rcases (chooses_iff.1 hChosen).2 with hNone | ⟨g, hOwn, hSame⟩
  · rw [hNone] at hyGroup
    cases hyGroup
  · rw [hyGroup, Option.some.injEq] at hOwn
    subst hOwn
    rw [hTurn, Option.some.injEq] at hSame
    exact (List.inj_on_of_nodup_map h.ids hx hy hSame).symm

/-- A message on a valid subject reaches every plain subscriber of it and one member of each of its
queue groups, each once and unless its buffer is full, and changes no other buffer. -/
theorem Sound.delivers {b : Bus} (h : b.Sound) {subject : String}
    (hValid : isValidSubject subject = true) (payload : String) :
    ∃ (b' : Bus) (chosen : Mailbox → Bool), b.publish subject payload = .ok b' ∧
      (∀ m ∈ b.members, chosen m = true → m.subject = subject) ∧
      (∀ m ∈ b.members, m.subject = subject → m.group = none → chosen m = true) ∧
      (∀ group, (∃ m ∈ b.members, m.subject = subject ∧ m.group = some group) →
        ∃! m, m ∈ b.members ∧ m.subject = subject ∧ m.group = some group ∧ chosen m = true) ∧
      b'.members = b.members.map fun m =>
        if chosen m = true ∧ m.buffer.length < m.capacity then
          { m with buffer := m.buffer ++ [⟨subject, payload⟩] }
        else m := by
  refine ⟨_, b.chooses subject, h.publish_eq hValid payload, fun m _ => subject_of_chooses,
    fun m _ hSubject hPlain => chooses_iff.2 ⟨hSubject, .inl hPlain⟩, ?_, ?_⟩
  · rintro group ⟨m, hm, hSubject, hGroup⟩
    exact h.existsUnique_chosen hm hSubject hGroup
  · rw [members_deliver h.ids]
    refine List.map_congr_left fun m _ => ?_
    unfold Mailbox.deliver Mailbox.hasRoom
    by_cases hChosen : b.chooses subject m = true
    · simp [hChosen]
    · simp [hChosen]

/-- A new subscription gets messages that are published on its subject from then on, in order. -/
theorem Sound.joined_sublist_published {b b' : Bus} (h : b.Sound) {subject : String}
    {group : Option String} {capacity : Nat} {id : SubscriptionId}
    (hJoined : b.subscribe subject group capacity = .ok (id, b')) (after : List Op) :
    (b'.received id after ++ (b'.run after).buffered id).Sublist (published subject after) := by
  unfold subscribe at hJoined
  split at hJoined
  · cases hJoined
    have hSound := h.of_change (.joined (m := ⟨b.nextId, subject, group, max capacity 1, []⟩)
      rfl rfl rfl) (c := { b with
        members := b.members ++ [⟨b.nextId, subject, group, max capacity 1, []⟩]
        nextId := b.nextId + 1 }) rfl
    exact hSound.sublist_published after (List.mem_append_right _ (List.mem_cons_self ..))
  · cases hJoined

/-- Whatever was done with a bus, a message on a valid subject reaches every plain subscriber of the
subject and one member of each queue group with members there, each once and unless its buffer is
full, and no other buffer changes. With an invalid subject nothing can be published or subscribed
to. And a subscription gets, in order, some of the messages that are published on its subject after
it joined, each once at most. -/
theorem publish_reaches_plain_subscribers_and_one_of_each_group (before : List Op) :
    let b := empty.run before
    (b.members.map Mailbox.id).Nodup ∧
    (∀ subject payload, isValidSubject subject = true →
      ∃ (b' : Bus) (chosen : Mailbox → Bool), b.publish subject payload = .ok b' ∧
        (∀ m ∈ b.members, chosen m = true → m.subject = subject) ∧
        (∀ m ∈ b.members, m.subject = subject → m.group = none → chosen m = true) ∧
        (∀ group, (∃ m ∈ b.members, m.subject = subject ∧ m.group = some group) →
          ∃! m, m ∈ b.members ∧ m.subject = subject ∧ m.group = some group ∧ chosen m = true) ∧
        b'.members = b.members.map fun m =>
          if chosen m = true ∧ m.buffer.length < m.capacity then
            { m with buffer := m.buffer ++ [⟨subject, payload⟩] }
          else m) ∧
    (∀ subject, isValidSubject subject = false →
      (∀ payload, b.publish subject payload = .error (.invalidSubject subject) ∧
        b.step (.publish subject payload) = b) ∧
      ∀ group capacity, b.subscribe subject group capacity = .error (.invalidSubject subject) ∧
        b.step (.subscribe subject group capacity) = b) ∧
    ∀ subject group capacity id b', b.subscribe subject group capacity = .ok (id, b') →
      ∀ after, (b'.received id after ++ (b'.run after).buffered id).Sublist
        (published subject after) := by
  intro b
  have h : b.Sound := sound_run before sound_empty
  refine ⟨h.ids, fun subject payload hValid => h.delivers hValid payload,
    fun subject hInvalid => ?_,
    fun subject group capacity id b' hJoined after => h.joined_sublist_published hJoined after⟩
  have hNot : ¬ isValidSubject subject = true := by
    rw [hInvalid]
    exact Bool.false_ne_true
  refine ⟨fun payload => ⟨?_, step_publish_of_invalid hNot payload⟩,
    fun group capacity => ⟨?_, step_subscribe_of_invalid hNot group capacity⟩⟩
  · rw [publish, h.opened, if_neg Bool.false_ne_true, if_neg hNot]
  · rw [subscribe, if_neg hNot]

/-- Two plain subscribers, the first with room for one message only, and a group of two, the first
of which leaves after a message. -/
def gathered : List Op :=
  [.subscribe "s" none 1, .subscribe "s" none 2, .subscribe "s" (some "g") 2,
    .subscribe "s" (some "g") 2, .publish "s" "first", .drop 2]

/-- Another message is lost where there is no room, and goes to the member that is left. -/
theorem second_message_reaches_the_member_left :
    ∃ (b' : Bus) (chosen : Mailbox → Bool),
      (empty.run gathered).publish "s" "second" = .ok b' ∧
      (∃! m, m ∈ (empty.run gathered).members ∧ m.subject = "s" ∧ m.group = some "g" ∧
        chosen m = true) ∧
      b'.members.map (fun m => (m.id, m.buffer.map Message.payload)) =
        [(0, ["first"]), (1, ["first", "second"]), (3, ["second"])] := by
  obtain ⟨-, hPublish, -⟩ := publish_reaches_plain_subscribers_and_one_of_each_group gathered
  obtain ⟨b', chosen, hDone, -, -, hGroups, -⟩ := hPublish "s" "second" (by decide +kernel)
  have hBuffers : ((empty.run gathered).publish "s" "second").toOption.map (fun b =>
      b.members.map fun m => (m.id, m.buffer.map Message.payload)) =
        some [(0, ["first"]), (1, ["first", "second"]), (3, ["second"])] := by
    decide +kernel
  rw [hDone] at hBuffers
  exact ⟨b', chosen, hDone, hGroups "g" (by decide +kernel), Option.some.inj hBuffers⟩

end Bus

end TransitForecast
