import TransitForecast.Table
import TransitForecast.Text.Blank
import TransitForecast.Text.Quoted

/-!
# TransitForecast — the message bus

Subjects are plain texts. A plain subscriber of a subject gets every message
published on it; the members of a queue group share them, so that each message
goes to one member, in turn. Buffers are bounded and publishing never waits: a
message for a full buffer is dropped.
-/

namespace TransitForecast

/-- A message as a subscriber gets it. -/
structure Message where
  subject : String
  payload : String
  deriving DecidableEq, Repr

/-- Why the bus refuses to publish or to subscribe. -/
inductive BusError
  | closed
  | invalidSubject (subject : String)
  | unencodable (subject reason : String)
  deriving DecidableEq, Repr

namespace BusError

/-- Short label. -/
def label : BusError → String
  | closed => "closed"
  | invalidSubject _ => "invalid_subject"
  | unencodable .. => "encode"

/-- The text of a failure. -/
def message : BusError → String
  | closed => "bus is closed"
  | invalidSubject subject => "invalid subject: " ++ Text.quoted subject
  | unencodable subject reason => "failed to encode message for " ++ subject ++ ": " ++ reason

end BusError

/-- The number of a subscription in the order in which they were made. -/
abbrev SubscriptionId := Nat

/-- A live subscription with its buffered messages, oldest first. -/
structure Mailbox where
  id : SubscriptionId
  subject : String
  /-- The queue group that it is a member of. -/
  group : Option String
  capacity : Nat
  buffer : List Message
  deriving DecidableEq, Repr

namespace Mailbox

/-- Whether there is room for another message. -/
def hasRoom (m : Mailbox) : Bool := m.buffer.length < m.capacity

/-- Takes a message if there is room. -/
def deliver (m : Mailbox) (msg : Message) : Mailbox :=
  if m.hasRoom then { m with buffer := m.buffer ++ [msg] } else m

end Mailbox

/-- The live subscriptions, in the order in which they joined, and whose turn it is in each queue
group. -/
structure Bus where
  members : List Mailbox
  /-- For each subject and group, the position of the member whose turn is next. -/
  turns : Table (String × String) Nat
  nextId : SubscriptionId
  /-- A closed bus refuses every message. -/
  closed : Bool

namespace Bus

/-- A bus without subscribers. -/
def empty : Bus := ⟨[], .empty, 0, false⟩

instance : Inhabited Bus := ⟨empty⟩

/-- Messages that a subscription buffers unless the settings say otherwise. -/
def defaultCapacity : Nat := 1024

/-- The largest buffer that a subscription may ask for. -/
def largestCapacity : Nat := 2305843009213693951

/-- A subject is valid when it is not empty and holds no blank. -/
def isValidSubject (subject : String) : Bool :=
  !subject.isEmpty && !subject.toList.any Text.isBlank

/-- Whether a subscription would be made, but asks for a larger buffer than there can be. -/
def asksTooMuch (subject : String) (capacity : Nat) : Bool :=
  isValidSubject subject && decide (largestCapacity < capacity)

/-- Makes a subscription, as a member of a queue group or on its own. -/
def subscribe (b : Bus) (subject : String) (group : Option String) (capacity : Nat) :
    Except BusError (SubscriptionId × Bus) :=
  if isValidSubject subject then
    .ok (b.nextId,
      { b with
        members := b.members ++ [⟨b.nextId, subject, group, max capacity 1, []⟩]
        nextId := b.nextId + 1 })
  else .error (.invalidSubject subject)

/-- The plain subscribers of a subject. -/
def isPlain (subject : String) (m : Mailbox) : Bool := m.subject = subject && m.group.isNone

/-- The members of a queue group of a subject. -/
def isMember (subject group : String) (m : Mailbox) : Bool :=
  m.subject = subject && m.group = some group

/-- The queue groups with members on a subject, each once. -/
def groupsOn (b : Bus) (subject : String) : List String :=
  (b.members.filterMap fun m => if m.subject = subject then m.group else none).eraseDups

/-- The members of a queue group, in the order in which they joined. -/
def membersOf (b : Bus) (subject group : String) : List Mailbox :=
  b.members.filter (isMember subject group)

/-- Position of the member of a group whose turn it is. -/
def turnOf (b : Bus) (subject group : String) : Nat :=
  ((b.turns.find? (subject, group)).getD 0) % (b.membersOf subject group).length

/-- The member of a group whose turn it is. -/
def chosen? (b : Bus) (subject group : String) : Option SubscriptionId :=
  ((b.membersOf subject group)[b.turnOf subject group]?).map Mailbox.id

/-- Delivers a message to the subscriptions that a test accepts. -/
def deliverTo (b : Bus) (accepts : Mailbox → Bool) (msg : Message) : Bus :=
  { b with members := b.members.map fun m => if accepts m then m.deliver msg else m }

/-- Delivers a message to the member of a group whose turn it is, and passes the turn on. -/
def deliverToGroup (msg : Message) (b : Bus) (group : String) : Bus :=
  match b.chosen? msg.subject group with
  | some id =>
    { b.deliverTo (fun m => m.id = id) msg with
      turns := b.turns.insert (msg.subject, group) (b.turnOf msg.subject group + 1) }
  | none => b

/-- Delivers a message to every plain subscriber and to one member of each group. -/
def deliver (b : Bus) (msg : Message) : Bus :=
  (b.groupsOn msg.subject).foldl (deliverToGroup msg) (b.deliverTo (isPlain msg.subject) msg)

/-- Publishes a message. -/
def publish (b : Bus) (subject payload : String) : Except BusError Bus :=
  if b.closed then .error .closed
  else if isValidSubject subject then .ok (b.deliver ⟨subject, payload⟩)
  else .error (.invalidSubject subject)

/-- The oldest buffered message of a subscription, taken out of its buffer. -/
def receive (b : Bus) (id : SubscriptionId) : Option Message × Bus :=
  let taken := (b.members.find? fun m => m.id = id).bind fun m => m.buffer.head?
  (taken, { b with
    members := b.members.map fun m => if m.id = id then { m with buffer := m.buffer.tail } else m })

/-- The buffered messages of a subscription. -/
def buffered (b : Bus) (id : SubscriptionId) : List Message :=
  (b.members.find? fun m => m.id = id).elim [] Mailbox.buffer

/-- Empties the buffer of a subscription. -/
def drain (b : Bus) (id : SubscriptionId) : List Message × Bus :=
  (b.buffered id, { b with
    members := b.members.map fun m => if m.id = id then { m with buffer := [] } else m })

/-- Ends a subscription, which is gone at once. A bus that keeps it, and prunes it when the next
message on its subject comes, before that is delivered and the turn of its group is taken, cannot be
told from this one: nobody can read any more what the subscription has buffered, `subscribers`
counts live subscriptions only, and a turn is a position among the live members of a group, in the
order in which they joined. -/
def drop (b : Bus) (id : SubscriptionId) : Bus :=
  { b with members := b.members.filter fun m => m.id ≠ id }

/-- Number of subscriptions of a subject, members of queue groups included. -/
def subscribers (b : Bus) (subject : String) : Nat :=
  b.members.countP fun m => m.subject = subject

/-- From now on every message is refused. -/
def close (b : Bus) : Bus := { b with closed := true }

end Bus

end TransitForecast
