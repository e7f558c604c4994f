import SlotPool.Session.Command

/-!
# Sessions

A session holds numbered objects and one list of addresses, and answers commands
one after another.  All objects draw the identities of their blocks from one
supply, so no two blocks of a session are confused, not even after the object of
one of them was given up.

Main definitions:

- `Session.Object.answer`: what an object answers to a request.
- `Session.step`: the answer to one command, and the session afterwards.
- `Session.run`: the answers to a list of commands.
-/

namespace SlotPool

/-- The objects built so far and the addresses seen so far. -/
structure Session where
  /-- The check that pools hold their plain frees to. -/
  check : FreeCheck
  /-- What the system answers to the reservations of the commands to come. -/
  memory : Memory
  /-- Objects by number; nothing stands where construction failed or the object was given up. -/
  objects : Array (Option Session.Object)
  /-- Addresses in the order in which they were seen. -/
  addresses : Array Address

namespace Session

/-! ## Answers of one object -/

/-- What an object answers, what becomes of it, and the addresses it made known. -/
structure Outcome where
  reply : Reply
  object : Option Object
  seen : Array Address

/-- The check that a free is held to.  A lone block is quick unless asked to be thorough; a pool
has a check of its own for plain frees. -/
def Object.checkFor (plain : FreeCheck) (thorough : Bool) : Object → FreeCheck
  | .block _ => if thorough then .thorough else .quick
  | .pool _ => if thorough then .thorough else plain
  | .typed _ _ => plain

/-- The reply to a free. -/
def Reply.ofFree : Except Fault Unit → Reply
  | .ok () => .ok
  | .error fault => .refused fault

/-- All sizes of an object. -/
def Object.statsReply : Object → Reply
  | .block b => .blockStats b.stats
  | .pool p => .poolStats p.stats
  | .typed _ t => .poolStats t.pool.stats

/-- All sizes of an object, with the details of its blocks. -/
def Object.detailsReply : Object → Reply
  | .block b => .blockDetails b.details
  | .pool p => .poolDetails p.stats (p.blocks.map Block.details)
  | .typed _ t => .poolDetails t.pool.stats (t.pool.blocks.map Block.details)

/-- Answers a request. -/
def Object.answer (memory : Memory) (plain : FreeCheck) (object : Object) :
    Request Address → Fresh Outcome
  | .allocate count fields =>
    (object.allocateMany memory fields count #[]).bind fun (issued, stop, object) =>
      .done ⟨.issued issued stop, some object, issued⟩
  | .free thorough address =>
    match object.free (object.checkFor plain thorough) address with
    | (result, object) => .done ⟨.ofFree result, some object, #[]⟩
  | .freeAll thorough addresses =>
    match object.freeMany (object.checkFor plain thorough) addresses with
    | (results, object) => .done ⟨.outcomes results, some object, #[]⟩
  | .reclaim => .done ⟨.ok, some object.reclaim, #[]⟩
  | .drop => .done ⟨.ok, none, #[]⟩
  | .contains address => .done ⟨.boolean (object.contains address), some object, #[]⟩
  | .blockIndex address =>
    match object.pool? with
    | some p => .done ⟨.index (p.blockIndex? address), some object, #[]⟩
    | none => .done ⟨.unsupported, some object, #[]⟩
  | .bytes address => .done ⟨.bytes (object.bytes? address), some object, #[]⟩
  | .write address data =>
    match object.write address data with
    | (written, object) => .done ⟨.boolean written, some object, #[]⟩
  | .get address => .done ⟨.fields (object.get? address), some object, #[]⟩
  | .set address fields =>
    match object.set address fields with
    | (stored, object) => .done ⟨.boolean stored, some object, #[]⟩
  | .first index =>
    let first := object.firstAddress? index
    .done ⟨.address first, some object, first.toArray⟩
  | .footprint => .done ⟨.number object.footprint, some object, #[]⟩
  | .stats => .done ⟨object.statsReply, some object, #[]⟩
  | .details => .done ⟨object.detailsReply, some object, #[]⟩
  | .text => .done ⟨.text object.text, some object, #[]⟩
  | .fieldText => .done ⟨.text object.fieldText, some object, #[]⟩

/-! ## Steps -/

/-- A session without objects, on a system that grants every reservation. -/
def start (check : FreeCheck) : Session where
  check := check
  memory := .ample
  objects := #[]
  addresses := #[]

/-- The object of a number. -/
def object? (session : Session) (number : Nat) : Option Object :=
  session.objects[number]?.join

/-- Builds an object under the next number, which is used up even if nothing can be built. -/
def build (session : Session) (construction : Construction) : Fresh (Reply × Session) :=
  (construction.build session.memory.first).bind fun
    | .ok object => .done (.ok, { session with objects := session.objects.push (some object) })
    | .error fault => .done (.refused fault, { session with objects := session.objects.push none })

/-- Asks something of the object of a number. -/
def askObject (session : Session) (number : Nat) (request : Request Address) :
    Fresh (Reply × Session) :=
  match session.object? number with
  | none => .done (.noObject, session)
  | some object =>
    -- The object leaves the array while it is worked on, so that it can be changed in place.
    let session := { session with objects := session.objects.setIfInBounds number none }
    (object.answer session.memory.first session.check request).bind fun outcome =>
      .done (outcome.reply,
        { session with
          objects := session.objects.setIfInBounds number outcome.object
          addresses := session.addresses ++ outcome.seen })

/-- Asks something of the object named, if one is.  A request about addresses needs a list of
addresses before it needs an object. -/
def ask (session : Session) (named : Option Nat) (request : Request Nat) :
    Fresh (Reply × Session) :=
  match request.resolve session.addresses, named with
  | none, _ => .done (.noAddress, session)
  | some _, none => .done (.noObject, session)
  | some request, some number => session.askObject number request

/-- Prints an address in both forms. -/
def print (session : Session) (rank : Nat) : Reply :=
  match addressOf? session.addresses rank with
  | some address => .forms address.text address.fieldText
  | none => .noAddress

/-- Compares two addresses. -/
def compareAddresses (session : Session) (first second : Nat) : Reply :=
  match addressOf? session.addresses first, addressOf? session.addresses second with
  | some a, some b => .ordering (a.compare b)
  | _, _ => .noAddress

/-- Answers a command. -/
def answer (session : Session) (command : Command) : Fresh (Reply × Session) :=
  match command.instruction with
  | .create construction => session.build construction
  | .ask request => session.ask command.object request
  | .forge address =>
    .done (.address (some address), { session with addresses := session.addresses.push address })
  | .print rank => .done (session.print rank, session)
  | .compare first second => .done (session.compareAddresses first second, session)

/-- The number of the object whose sizes a command shows: the one it builds, or the one it names. -/
def shownObject? (session : Session) (command : Command) : Option Nat :=
  match command.instruction with
  | .create _ => some session.objects.size
  | _ => command.object

/-- Answers a command, and shows the sizes of an object afterwards, if there is one to show. -/
def step (session : Session) (command : Command) :
    Fresh ((Reply × Option Snapshot) × Session) :=
  (session.answer command).bind fun (reply, after) =>
    .done ((reply, ((session.shownObject? command).bind after.object?).map Object.snapshot),
      { after with memory := session.memory.rest })

/-- Answers commands one after another. -/
def run (session : Session) : List Command → Fresh (List (Reply × Option Snapshot))
  | [] => .done []
  | command :: commands =>
    (session.step command).bind fun (shown, session) =>
      (session.run commands).bind fun rest => .done (shown :: rest)

end Session

end SlotPool
