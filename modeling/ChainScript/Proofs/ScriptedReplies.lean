import Mathlib.Data.List.Induction
import ChainScript.Chain.Shared
import ChainScript.Proofs.RunnerPaths
import ChainScript.Proofs.WordBytes

/-! What a scripted chain hands out. Replies are prepared and requests are made in any order; what has been prepared of a
kind is what has been handed out of it, followed by what still waits, so each reply goes to the next request of its kind
for which none went before it. A request for which nothing waits gets a reply of its own making, numbered by the requests
so far. -/

namespace ChainScript

inductive Reply where
  | call (outcome : Except Refusal Bytes)
  | send (outcome : Except Refusal Receipt)
  | deploy (outcome : Except Refusal Deployed)

def Reply.kind : Reply → RequestKind
  | .call _ => .call
  | .send _ => .send
  | .deploy _ => .deploy

namespace Exchange

def reply : Exchange → Reply
  | .call _ outcome => .call outcome
  | .send _ outcome => .send outcome
  | .deploy _ outcome => .deploy outcome

end Exchange

namespace ScriptedChain

def prepare (chain : ScriptedChain) : Reply → ScriptedChain
  | .call outcome => chain.pushCall outcome
  | .send outcome => chain.pushSend outcome
  | .deploy outcome => chain.pushDeploy outcome

def ask (request : Request) : StateM ScriptedChain Exchange :=
  match request.kind with
  | .call => .call request.transaction <$> call request.transaction
  | .send => .send request.transaction <$> send request.transaction
  | .deploy => .deploy request.transaction <$> deploy request.transaction

/-- What is done with a scripted chain that is shared, through one of the handles at a time. -/
inductive Move where
  | clone (handle : Nat)
  | prepare (handle : Nat) (reply : Reply)
  | ask (handle : Nat) (request : Request)

/-- Makes a move, which is an exchange if it is a request. -/
def move : Move → StateM (Shared ScriptedChain) (Option Exchange)
  | .clone handle => fun shared => (none, shared.clone handle)
  | .prepare handle reply => do
    let _ ← Shared.through handle fun chain => ((), chain.prepare reply)
    return none
  | .ask handle request => Shared.through handle (ask request)

namespace Move

def handle : Move → Nat
  | .clone handle | .prepare handle _ | .ask handle _ => handle

/-- How many handles there are more afterwards. -/
def clones : Move → Nat
  | .clone _ => 1
  | .prepare _ _ | .ask _ _ => 0

end Move

/-- The moves go through handles that there are, beginning with `count` of them. -/
def Held (count : Nat) : List Move → Prop
  | [] => True
  | action :: rest => action.handle < count ∧ Held (count + action.clones) rest

/-- The replies of a kind that are prepared and not yet handed out. -/
def waiting (chain : ScriptedChain) : RequestKind → List Reply
  | .call => chain.calls.map .call
  | .send => chain.sends.map .send
  | .deploy => chain.deploys.map .deploy

/-- The exchange that was not prepared, for the last of `count` requests. -/
def unprepared (count : Nat) (request : Request) : Exchange :=
  match request.kind with
  | .call => .call request.transaction (.ok [])
  | .send => .send request.transaction (.ok (defaultReceipt count))
  | .deploy => .deploy request.transaction
      (.ok (defaultAddress, { defaultReceipt count with contractAddress := some defaultAddress }))

theorem waiting_prepare (chain : ScriptedChain) (reply : Reply) (kind : RequestKind) :
    (chain.prepare reply).waiting kind = chain.waiting kind ++ if reply.kind = kind then [reply] else [] := by
  cases reply <;> cases kind <;> simp [prepare, pushCall, pushSend, pushDeploy, waiting, Reply.kind]

theorem requests_prepare (chain : ScriptedChain) (reply : Reply) : (chain.prepare reply).requests = chain.requests := by
  cases reply <;> rfl

private theorem map_run {σ α β : Type} {action : StateM σ α} {state after : σ} {value : α} {change : α → β}
    (ran : action state = (value, after)) : (change <$> action) state = (change value, after) := by
  simp only [Functor.map, StateT.map, bind, ran]
  rfl

theorem ask_waiting {chain : ScriptedChain} {request : Request} {reply : Reply} {rest : List Reply}
    (waits : chain.waiting request.kind = reply :: rest) :
    ∃ exchange next, ask request chain = (exchange, next) ∧ exchange.request = request ∧ exchange.reply = reply ∧
      next.requests = chain.requests ++ [request] ∧
      ∀ kind, next.waiting kind = if kind = request.kind then rest else chain.waiting kind := by
  obtain ⟨kind, transaction⟩ := request
  cases kind with
  | call =>
    obtain ⟨outcome, others, queue, rfl, rfl⟩ := List.map_eq_cons_iff.mp waits
    refine ⟨.call transaction outcome, { chain.noted .call transaction with calls := others }, ?_, rfl, rfl, rfl, ?_⟩
    · exact map_run (by simp only [call, noted, queue])
    · intro kind
      cases kind <;> rfl
  | send =>
    obtain ⟨outcome, others, queue, rfl, rfl⟩ := List.map_eq_cons_iff.mp waits
    refine ⟨.send transaction outcome, { chain.noted .send transaction with sends := others }, ?_, rfl, rfl, rfl, ?_⟩
    · exact map_run (by simp only [send, noted, queue])
    · intro kind
      cases kind <;> rfl
  | deploy =>
    obtain ⟨outcome, others, queue, rfl, rfl⟩ := List.map_eq_cons_iff.mp waits
    refine ⟨.deploy transaction outcome, { chain.noted .deploy transaction with deploys := others }, ?_, rfl, rfl,
      rfl, ?_⟩
    · exact map_run (by simp only [deploy, noted, queue])
    · intro kind
      cases kind <;> rfl

theorem ask_empty {chain : ScriptedChain} {request : Request} (empty : chain.waiting request.kind = []) :
    ask request chain =
      (unprepared (chain.requests.length + 1) request, chain.noted request.kind request.transaction) := by
  obtain ⟨kind, transaction⟩ := request
  cases kind with
  | call =>
    have queue : chain.calls = [] := List.map_eq_nil_iff.mp empty
    exact map_run (by simp only [call, noted, queue])
  | send =>
    have queue : chain.sends = [] := List.map_eq_nil_iff.mp empty
    exact map_run (by simp only [send, noted, queue, List.length_append, List.length_singleton])
  | deploy =>
    have queue : chain.deploys = [] := List.map_eq_nil_iff.mp empty
    exact map_run (by simp only [deploy, noted, queue, List.length_append, List.length_singleton])

theorem request_unprepared (count : Nat) (request : Request) : (unprepared count request).request = request := by
  obtain ⟨kind, transaction⟩ := request
  cases kind <;> rfl

/-- A move as it went: a request is answered by a reply that was prepared, or by one that was not. -/
inductive Deed where
  | cloned (handle : Nat)
  | prepared (handle : Nat) (reply : Reply)
  | handed (handle : Nat) (exchange : Exchange)
  | defaulted (handle : Nat) (exchange : Exchange)

namespace Deed

def move : Deed → Move
  | .cloned handle => .clone handle
  | .prepared handle reply => .prepare handle reply
  | .handed handle exchange | .defaulted handle exchange => .ask handle exchange.request

def exchange? : Deed → Option Exchange
  | .cloned _ | .prepared _ _ => none
  | .handed _ exchange | .defaulted _ exchange => some exchange

def prepared? (kind : RequestKind) : Deed → Option Reply
  | .prepared _ reply => if reply.kind = kind then some reply else none
  | _ => none

def handed? (kind : RequestKind) : Deed → Option Reply
  | .handed _ exchange => if exchange.request.kind = kind then some exchange.reply else none
  | _ => none

/-- The receipt of an exchange that was not prepared. -/
def defaultReceipt? : Deed → Option Receipt
  | .defaulted _ exchange => exchange.receipt?
  | _ => none

end Deed

def preparedOf (kind : RequestKind) (deeds : List Deed) : List Reply :=
  deeds.filterMap (Deed.prepared? kind)

def handedOf (kind : RequestKind) (deeds : List Deed) : List Reply :=
  deeds.filterMap (Deed.handed? kind)

def requestsOf (deeds : List Deed) : List Request :=
  (deeds.filterMap Deed.exchange?).map Exchange.request

private theorem filterMap_concat {α β : Type} (choose : α → Option β) (items : List α) (item : α) :
    (items ++ [item]).filterMap choose = items.filterMap choose ++ (choose item).toList := by
  rw [List.filterMap_append]
  cases chosen : choose item with
  | none => rw [List.filterMap_cons_none chosen]; rfl
  | some value => rw [List.filterMap_cons_some chosen]; rfl

theorem preparedOf_concat (kind : RequestKind) (deeds : List Deed) (deed : Deed) :
    preparedOf kind (deeds ++ [deed]) = preparedOf kind deeds ++ (deed.prepared? kind).toList :=
  filterMap_concat _ deeds deed

theorem handedOf_concat (kind : RequestKind) (deeds : List Deed) (deed : Deed) :
    handedOf kind (deeds ++ [deed]) = handedOf kind deeds ++ (deed.handed? kind).toList :=
  filterMap_concat _ deeds deed

theorem requestsOf_concat (deeds : List Deed) (deed : Deed) :
    requestsOf (deeds ++ [deed]) = requestsOf deeds ++ (deed.exchange?.map Exchange.request).toList := by
  rw [requestsOf, filterMap_concat, List.map_append]
  cases deed.exchange? <;> rfl

/-- After these deeds, a reply that is handed out is the next one that was prepared of its kind, and a request has a reply
of its own making only if all that were prepared of its kind are handed out. -/
def Deed.Due (before : List Deed) : Deed → Prop
  | .cloned _ | .prepared _ _ => True
  | .handed _ exchange =>
    handedOf exchange.request.kind before ++ [exchange.reply] <+: preparedOf exchange.request.kind before
  | .defaulted _ exchange =>
    handedOf exchange.request.kind before = preparedOf exchange.request.kind before ∧
      exchange = unprepared ((requestsOf before).length + 1) exchange.request

def Faithful (deeds : List Deed) : Prop :=
  ∀ before deed after, deeds = before ++ deed :: after → deed.Due before

theorem Faithful.concat {deeds : List Deed} {deed : Deed} (faithful : Faithful deeds) (due : deed.Due deeds) :
    Faithful (deeds ++ [deed]) := by
  intro before other after split
  -- Either this is the new deed, or it stood among the others already.
  rcases List.eq_nil_or_concat after with rfl | ⟨init, last, rfl⟩
  · obtain ⟨rfl, same⟩ := List.append_inj' split rfl
    cases same
    exact due
  · rw [List.concat_eq_append, ← List.cons_append, ← List.append_assoc] at split
    exact faithful before other init (List.append_inj' split rfl).1

theorem Faithful.of_concat {deeds : List Deed} {deed : Deed} (faithful : Faithful (deeds ++ [deed])) :
    Faithful deeds ∧ deed.Due deeds := by
  refine ⟨?_, faithful deeds deed [] rfl⟩
  intro before other after split
  apply faithful before other (after ++ [deed])
  rw [split, List.append_assoc, List.cons_append]

def defaultsOf (deeds : List Deed) : List Receipt :=
  deeds.filterMap Deed.defaultReceipt?

def Numbered (number : Nat) (receipt : Receipt) : Prop :=
  receipt.transactionHash = Octets.ofNat 32 (UInt64.ofNat number).toNat ∧
    receipt.blockNumber = some (UInt64.ofNat number)

theorem Numbered.apart {number other : Nat} {receipt later : Receipt} (first : Numbered number receipt)
    (second : Numbered other later) (less : number < other) (room : other < 2 ^ 64) :
    receipt.transactionHash ≠ later.transactionHash ∧ receipt.blockNumber ≠ later.blockNumber := by
  have value : (UInt64.ofNat number).toNat = number := UInt64.toNat_ofNat_of_lt' (Nat.lt_trans less room)
  have value' : (UInt64.ofNat other).toNat = other := UInt64.toNat_ofNat_of_lt' room
  rw [first.1, first.2, second.1, second.2]
  constructor
  · intro same
    have numbers := congrArg (fun hash => numberOf hash.toList) same
    simp only [Octets.numberOf_ofNat, value, value'] at numbers
    omega
  · intro same
    have numbers := congrArg UInt64.toNat (Option.some.inj same)
    rw [value, value'] at numbers
    omega

theorem numbered_of_unprepared {count : Nat} {request : Request} {receipt : Receipt}
    (made : (unprepared count request).receipt? = some receipt) : Numbered (count + 1) receipt := by
  obtain ⟨kind, transaction⟩ := request
  simp only [unprepared] at made
  cases kind with
  | call => cases made
  | send =>
    rw [← Option.some.inj made]
    exact ⟨rfl, rfl⟩
  | deploy =>
    rw [← Option.some.inj made]
    exact ⟨rfl, rfl⟩

theorem Deed.Due.numbered {deeds : List Deed} {deed : Deed} (due : deed.Due deeds) {receipt : Receipt}
    (made : deed.defaultReceipt? = some receipt) :
    (requestsOf (deeds ++ [deed])).length = (requestsOf deeds).length + 1 ∧
      Numbered ((requestsOf deeds).length + 2) receipt := by
  cases deed with
  | cloned | prepared | handed => cases made
  | defaulted handle exchange =>
    obtain ⟨_, same⟩ := due
    have received : exchange.receipt? = some receipt := made
    rw [same] at received
    exact ⟨by rw [requestsOf_concat]; exact List.length_append, numbered_of_unprepared received⟩

theorem defaultsOf_concat (deeds : List Deed) (deed : Deed) :
    defaultsOf (deeds ++ [deed]) = defaultsOf deeds ++ deed.defaultReceipt?.toList :=
  filterMap_concat _ deeds deed

theorem length_requestsOf_le (deeds : List Deed) (deed : Deed) :
    (requestsOf deeds).length ≤ (requestsOf (deeds ++ [deed])).length := by
  rw [requestsOf_concat, List.length_append]
  exact Nat.le_add_right _ _

theorem Faithful.numbered {deeds : List Deed} (faithful : Faithful deeds) :
    ∀ receipt ∈ defaultsOf deeds, ∃ number, number ≤ (requestsOf deeds).length + 1 ∧ Numbered number receipt := by
  induction deeds using List.reverseRecOn with
  | nil => exact fun receipt member => (List.not_mem_nil member).elim
  | append_singleton deeds deed ih =>
    obtain ⟨earlier, due⟩ := faithful.of_concat
    have longer := length_requestsOf_le deeds deed
    intro receipt member
    rw [defaultsOf_concat] at member
    rcases List.mem_append.mp member with old | new
    · obtain ⟨number, small, own⟩ := ih earlier receipt old
      exact ⟨number, by omega, own⟩
    · obtain ⟨length, own⟩ := due.numbered (Option.mem_toList.mp new)
      exact ⟨_, by omega, own⟩

/-- The numbers of the receipts increase. -/
theorem Faithful.apart {deeds : List Deed} (faithful : Faithful deeds)
    (room : (requestsOf deeds).length < 2 ^ 64 - 1) :
    (defaultsOf deeds).Pairwise fun first second =>
      first.transactionHash ≠ second.transactionHash ∧ first.blockNumber ≠ second.blockNumber := by
  induction deeds using List.reverseRecOn with
  | nil => exact .nil
  | append_singleton deeds deed ih =>
    obtain ⟨earlier, due⟩ := faithful.of_concat
    have longer := length_requestsOf_le deeds deed
    rw [defaultsOf_concat]
    refine List.pairwise_append.mpr ⟨ih earlier (by omega), ?_, ?_⟩
    · cases deed.defaultReceipt? with
      | none => exact .nil
      | some receipt => exact List.pairwise_singleton _ receipt
    · intro receipt old later new
      obtain ⟨number, small, first⟩ := earlier.numbered receipt old
      obtain ⟨length, second⟩ := due.numbered (Option.mem_toList.mp new)
      exact first.apart second (by omega) (by omega)

/-- The chain that is left by these deeds. -/
structure Follows (deeds : List Deed) (chain : ScriptedChain) : Prop where
  faithful : Faithful deeds
  queues : ∀ kind, preparedOf kind deeds = handedOf kind deeds ++ chain.waiting kind
  requests : chain.requests = requestsOf deeds

namespace Follows

variable {deeds : List Deed} {chain : ScriptedChain}

theorem fresh : Follows [] {} := by
  refine ⟨?_, ?_, rfl⟩
  · intro before deed after split
    cases before <;> cases split
  · intro kind
    cases kind <;> rfl

/-- What waits and what comes in is what goes out and what waits then. -/
theorem concat {deed : Deed} {next : ScriptedChain} (follows : Follows deeds chain) (due : deed.Due deeds)
    (queues : ∀ kind, chain.waiting kind ++ (deed.prepared? kind).toList =
      (deed.handed? kind).toList ++ next.waiting kind)
    (requests : next.requests = chain.requests ++ (deed.exchange?.map Exchange.request).toList) :
    Follows (deeds ++ [deed]) next := by
  refine ⟨follows.faithful.concat due, ?_, ?_⟩
  · intro kind
    rw [preparedOf_concat, handedOf_concat, follows.queues, List.append_assoc, queues, List.append_assoc]
  · rw [requestsOf_concat, requests, follows.requests]

theorem clone (follows : Follows deeds chain) (handle : Nat) : Follows (deeds ++ [.cloned handle]) chain := by
  refine follows.concat trivial ?_ ?_
  · intro kind
    exact List.append_nil _
  · exact (List.append_nil _).symm

theorem prepare (follows : Follows deeds chain) (handle : Nat) (reply : Reply) :
    Follows (deeds ++ [.prepared handle reply]) (chain.prepare reply) := by
  refine follows.concat trivial ?_ ?_
  · intro kind
    rw [waiting_prepare]
    by_cases same : reply.kind = kind <;> simp only [Deed.prepared?, same, if_true, if_false] <;> rfl
  · rw [requests_prepare]
    exact (List.append_nil _).symm

theorem handed (follows : Follows deeds chain) (handle : Nat) {request : Request} {reply : Reply} {rest : List Reply}
    (waits : chain.waiting request.kind = reply :: rest) :
    ∃ exchange next, ask request chain = (exchange, next) ∧ exchange.request = request ∧
      Follows (deeds ++ [.handed handle exchange]) next := by
  obtain ⟨exchange, next, asked, rfl, rfl, noted, queues⟩ := ask_waiting waits
  refine ⟨exchange, next, asked, rfl, follows.concat ?_ ?_ noted⟩
  · refine ⟨rest, ?_⟩
    rw [follows.queues, waits, List.append_assoc]
    rfl
  · intro kind
    rw [queues]
    by_cases same : exchange.request.kind = kind
    · subst same
      simp only [Deed.prepared?, Deed.handed?, if_true, waits]
      exact List.append_nil _
    · simp only [Deed.prepared?, Deed.handed?, same, Ne.symm same, if_false]
      exact List.append_nil _

theorem defaulted (follows : Follows deeds chain) (handle : Nat) {request : Request}
    (empty : chain.waiting request.kind = []) :
    ∃ exchange next, ask request chain = (exchange, next) ∧ exchange.request = request ∧
      Follows (deeds ++ [.defaulted handle exchange]) next := by
  have asked := request_unprepared (chain.requests.length + 1) request
  refine ⟨_, _, ask_empty empty, asked, follows.concat ?_ ?_ ?_⟩
  · rw [Deed.Due, asked, ← follows.requests, follows.queues, empty, List.append_nil]
    exact ⟨rfl, rfl⟩
  · intro kind
    exact List.append_nil _
  · rw [Deed.exchange?, Option.map_some, asked]
    rfl

theorem ask (follows : Follows deeds chain) (handle : Nat) (request : Request) :
    ∃ deed exchange next, ScriptedChain.ask request chain = (exchange, next) ∧ deed.move = .ask handle request ∧
      deed.exchange? = some exchange ∧ Follows (deeds ++ [deed]) next := by
  cases waits : chain.waiting request.kind with
  | nil =>
    obtain ⟨exchange, next, asked, rfl, after⟩ := follows.defaulted handle waits
    exact ⟨.defaulted handle exchange, exchange, next, asked, rfl, rfl, after⟩
  | cons reply rest =>
    obtain ⟨exchange, next, asked, rfl, after⟩ := follows.handed handle waits
    exact ⟨.handed handle exchange, exchange, next, asked, rfl, rfl, after⟩

variable {shared : Shared ScriptedChain} {count : Nat}

/-- A move through whichever handle is a deed on the one chain. -/
theorem move (follows : Follows deeds chain) (only : shared.Only chain count) {action : Move}
    (held : action.handle < count) :
    ∃ deed after next, deed.move = action ∧ ScriptedChain.move action shared = (deed.exchange?, after) ∧
      after.Only next (count + action.clones) ∧ Follows (deeds ++ [deed]) next := by
  cases action with
  | clone handle =>
    exact ⟨.cloned handle, shared.clone handle, chain, rfl, rfl, only.clone held, follows.clone handle⟩
  | prepare handle reply =>
    obtain ⟨after, ran, reached⟩ := only.through held (fun chain => ((), chain.prepare reply)) rfl
    exact ⟨.prepared handle reply, after, _, rfl, bind_run ran, reached, follows.prepare handle reply⟩
  | ask handle request =>
    obtain ⟨deed, exchange, next, asked, same, answered, later⟩ := follows.ask handle request
    obtain ⟨after, ran, reached⟩ := only.through held _ asked
    exact ⟨deed, after, next, same, by rw [answered]; exact ran, reached, later⟩

theorem moves (follows : Follows deeds chain) (only : shared.Only chain count) {moves : List Move}
    (held : Held count moves) :
    ∃ more after next total, more.map Deed.move = moves ∧
      moves.mapM ScriptedChain.move shared = (more.map Deed.exchange?, after) ∧ after.Only next total ∧
      Follows (deeds ++ more) next := by
  -- What is known of the chain is told by the deeds so far, which grow with every move.
  induction moves generalizing deeds chain shared count with
  | nil => exact ⟨[], shared, chain, count, rfl, rfl, only, by rwa [List.append_nil]⟩
  | cons action moves ih =>
    obtain ⟨here, rest⟩ := held
    obtain ⟨deed, after, next, same, ran, reached, later⟩ := follows.move only here
    obtain ⟨more, final, last, total, others, remaining, kept, whole⟩ := ih later reached rest
    refine ⟨deed :: more, final, last, total, ?_, ?_, kept, ?_⟩
    · rw [List.map_cons, same, others]
    · rw [List.mapM_cons, bind_run ran, bind_run remaining]
      rfl
    · rwa [List.append_assoc] at whole

end Follows

/-- Whatever is done, and through whichever clones, on a chain that begins with nothing prepared: the replies handed out
to requests of one kind are those prepared of that kind, in order, and each goes to one request; a request gets a default
reply exactly when all that were prepared of its kind before it are handed out; every handle shows all requests, in order;
and the receipts that were not prepared all differ, as long as they can be numbered. -/
theorem replies_as_prepared (moves : List Move) (held : Held 1 moves) :
    let (answers, shared) := (moves.mapM move).run (.single {})
    ∃ deeds chain, deeds.map Deed.move = moves ∧ deeds.map Deed.exchange? = answers ∧
      Faithful deeds ∧ (∀ kind, handedOf kind deeds <+: preparedOf kind deeds) ∧
      (∀ handle < shared.handles.length, (Shared.through handle get shared).1 = some chain) ∧
      chain.requests = requestsOf deeds ∧
      (chain.requests.length < 2 ^ 64 - 1 → (defaultsOf deeds).Pairwise fun first second =>
        first.transactionHash ≠ second.transactionHash ∧ first.blockNumber ≠ second.blockNumber) := by
  obtain ⟨deeds, shared, chain, count, same, ran, only, follows⟩ :=
    Follows.fresh.moves (Shared.only_single _) held
  have run : (moves.mapM move).run (.single {}) = (deeds.map Deed.exchange?, shared) := ran
  rw [run]
  refine ⟨deeds, chain, same, rfl, follows.faithful, ?_, ?_, follows.requests, ?_⟩
  · intro kind
    exact ⟨chain.waiting kind, (follows.queues kind).symm⟩
  · intro handle within
    rw [only.handles, List.length_replicate] at within
    obtain ⟨after, reached, _⟩ := only.through within get rfl
    rw [reached]
  · rw [follows.requests]
    exact follows.faithful.apart

/-- The refusal that is prepared through a clone goes to the first payment; the second payment and the deployment get
receipts of their own. -/
theorem replies_as_prepared_cloned :
    let pay : Request := ⟨.send, { recipient := some (Octets.fill 20 1), value := 5 }⟩
    let create : Request := ⟨.deploy, { data := [1] }⟩
    let moves : List Move := [.clone 0, .prepare 1 (.send (.error (.rejected "closed"))), .ask 0 create, .ask 0 pay,
      .ask 1 pay]
    Held 1 moves ∧ ∃ deeds, deeds.map Deed.move = moves ∧
      deeds.map Deed.exchange? = [none, none, some (unprepared 1 create),
        some (.send pay.transaction (.error (.rejected "closed"))), some (unprepared 3 pay)] ∧
      Faithful deeds ∧ (requestsOf deeds).map (·.kind) = [.deploy, .send, .send] ∧
      (defaultsOf deeds).Pairwise fun first second =>
        first.transactionHash ≠ second.transactionHash ∧ first.blockNumber ≠ second.blockNumber := by
  intro pay create moves
  have held : Held 1 moves := by simp [moves, Held, Move.handle, Move.clones]
  obtain ⟨deeds, chain, same, answers, faithful, _, _, requests, apart⟩ := replies_as_prepared moves held
  have exchanges : deeds.filterMap Deed.exchange? = [unprepared 1 create,
      .send pay.transaction (.error (.rejected "closed")), unprepared 3 pay] := by
    calc deeds.filterMap Deed.exchange? = (deeds.map Deed.exchange?).filterMap id := by rw [List.filterMap_map]; rfl
      _ = _ := by rw [answers]; rfl
  have asked : requestsOf deeds = [create, pay, pay] := by
    rw [requestsOf, exchanges]
    rfl
  refine ⟨held, deeds, same, answers, faithful, by rw [asked]; rfl, apart ?_⟩
  rw [requests, asked]
  decide

end ScriptedChain

end ChainScript
