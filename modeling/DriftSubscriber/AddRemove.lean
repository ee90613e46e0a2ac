import DriftSubscriber.Steps

/-!
# Adding a feed and removing it again

`add_account(P)` for an address the subscriber has never seen stores the decoder and a
value under its key (lines 81-92, after the snapshot of lines 95-104 when the call brings
none), records request `request_id_counter + 1` in flight and sends its frame (lines
107-131).  The reader binds the server's confirmation of that request (lines 369-395), and
`remove_account(P)` (lines 141-191) drops the oracle ids, the subscription and the plain
key.  From any state with a socket and a reader waiting in `recv`, the three together
leave every map as it was: only the request counter has moved.  The server keeps the
subscription: the wire carries the `accountSubscribe` frame, and the call of
`account_unsubscribe` on line 177 raises `AttributeError` on the raw connection before
anything is sent.

The subscription id must be new to `subscription_map`: a reused one would overwrite the
address it routes (line 389), and the removal then deletes that entry.
-/

namespace DriftSubscriber

namespace Dict

variable {κ ν : Type} [DecidableEq κ] (d : Dict κ ν) (k : κ) (v : ν)

omit [DecidableEq κ] in
theorem ext_entries {d d' : Dict κ ν} (h : d.entries = d'.entries) : d = d' := by
  cases d; cases d'; cases h; rfl

/-- `d.pop(k, None)` on a missing key changes nothing. -/
theorem erase_of_not_mem (h : k ∉ d) : d.erase k = d :=
  ext_entries <| List.filter_eq_self.mpr fun _ he =>
    bne_iff_ne.mpr fun hk => h (hk ▸ List.mem_map_of_mem Prod.fst he)

/-- Deleting a key just added gives the dictionary back, order included. -/
theorem erase_insert_of_not_mem (h : k ∉ d) : (d.insert k v).erase k = d := by
  have hkeep : d.entries.filter (fun e => e.1 != k) = d.entries :=
    congrArg entries (erase_of_not_mem d k h)
  refine ext_entries ?_
  show (d.insert k v).entries.filter _ = _
  rw [entries_insert_of_not_mem d k v h, List.filter_append, hkeep]
  simp

theorem keys_insert_empty : ((empty : Dict κ ν).insert k v).keys = [k] := by
  rw [keys, entries_insert_of_not_mem _ _ _ (not_mem_empty k)]
  rfl

end Dict

namespace Registry

variable {Pubkey Record : Type} [DecidableEq Pubkey] (codec : PubkeyCodec Pubkey)

theorem registerFresh_dataMap (reg : Registry Pubkey Record) (call : AddAccountCall Pubkey Record)
    (key : String) (decodeFn : Decoder Record) :
    (reg.registerFresh call key decodeFn).dataMap = (reg.storeKey key decodeFn call.initialData).dataMap := by
  unfold registerFresh; split <;> rfl

omit [DecidableEq Pubkey] in
theorem recordInflight_snd (reg : Registry Pubkey Record) (P : Pubkey) (oracleId : Option String) :
    (reg.recordInflight P oracleId).2 = reg.requestIdCounter + 1 := rfl

/-- Nothing is registered for the call's address, key or oracle id, and the next request id
is free. -/
structure Unseen (reg : Registry Pubkey Record) (call : AddAccountCall Pubkey Record) : Prop where
  subscription : call.pubkey ∉ reg.pubkeyToSubscription
  oracleIds : call.pubkey ∉ reg.pubkeyToOracleIds
  decoder : codec.str call.pubkey ∉ reg.decodeMap
  value : codec.str call.pubkey ∉ reg.dataMap
  initialValue : codec.str call.pubkey ∉ reg.initialDataMap
  keyDecoder : call.key codec ∉ reg.decodeMap
  keyValue : call.key codec ∉ reg.dataMap
  oracleSubscription : ∀ oracleId, call.oracleId = some oracleId → oracleId ∉ reg.oracleIdToSubscription
  request : reg.requestIdCounter + 1 ∉ reg.inflightSubscribes

variable {codec} {reg : Registry Pubkey Record} {call : AddAccountCall Pubkey Record}

/-- The registry round trip: the key stored with any value `v`, the request recorded and
confirmed, then `remove_account(P)`, which reaches the subscription and drops it. -/
theorem removeAccount_confirm_registerFresh (hunseen : reg.Unseen codec call) (decodeFn : Decoder Record)
    (v : Option (DataAndSlot Record)) {subscriptionId : Int} (hsid : subscriptionId ∉ reg.subscriptionMap) :
    (({ reg.registerFresh call (call.key codec) decodeFn with
          dataMap := reg.dataMap.insert (call.key codec) v }.recordInflight call.pubkey call.oracleId).1.confirm
        subscriptionId (.int (reg.requestIdCounter + 1))).removeAccount codec call.pubkey none =
      ({ reg with requestIdCounter := reg.requestIdCounter + 1 }, some subscriptionId) := by
  obtain ⟨P, decode, initialData, oracleId⟩ := call
  obtain ⟨hsub, hoids, hdec, hval, hinit, hkdec, hkval, hosub, hreq⟩ := hunseen
  have hnone := (Dict.get?_eq_none_iff _ _).mpr hoids
  cases oracleId <;> simp only [AddAccountCall.key, Option.getD_none, Option.getD_some] at hkdec hkval hosub ⊢
  case none =>
    simp [registerFresh, storeKey, confirm, requestIdOf, Json.intKey, bindSubscription, removeAccount,
      dropOracleIds, keepsSubscription, dropSubscription, retractRequest, Dict.erase_insert_of_not_mem,
      Dict.erase_of_not_mem, *]
  case some oracleId =>
    simp [registerFresh, storeKey, confirm, requestIdOf, Json.intKey, bindSubscription, removeAccount,
      dropOracleIds, keepsSubscription, dropSubscription, retractRequest, Dict.erase_insert_of_not_mem,
      Dict.erase_of_not_mem, Dict.keys_insert_empty, addOracleId, oracleIdsOf, PySet.add, dropKey, *]

end Registry

namespace EventLoop

variable {Pubkey Record : Type} [DecidableEq Pubkey] (codec : PubkeyCodec Pubkey)

theorem set_of_getElem? {α : Type} {l : List α} {i : Nat} {a : α} (h : l[i]? = some a) : l.set i a = l :=
  List.ext_getElem? fun j => by
    rw [List.getElem?_set]
    split_ifs with hij hi <;> subst_vars <;> simp_all [List.getElem?_eq_none]

theorem resumeTask_sent (l : EventLoop Pubkey Record) (call : AddAccountCall Pubkey Record) (requestId : Int)
    (conn : Nat) :
    l.resumeTask codec (.addAccount call (.sending requestId conn)) (.sent true) =
      some (l.record (.accountSubscribe conn requestId call.pubkey), .finished) :=
  rfl

theorem resumeReader_received (l : EventLoop Pubkey Record) (cancelled : Bool) (conn : Nat) (msg : Msg) :
    l.resumeReader codec cancelled (.receiving conn) (.received (some msg)) =
      some (if l.running then (l.setRegistry (l.toRegistry.handleMsg codec msg)).readNext conn
        else (l, some (.closing conn .loop))) :=
  rfl

/-- `add_account` on an open socket, for an address without a subscription and a key without a
value, up to its sent frame: the snapshot comes first when the call brings no value. -/
theorem run_addAccount_sent (l : EventLoop Pubkey Record) {conn : Nat} (hws : l.ws = some conn)
    (call : AddAccountCall Pubkey Record) (hsub : call.pubkey ∉ l.pubkeyToSubscription)
    (hkey : call.key codec ∉ l.dataMap) (data : Option (DataAndSlot Record)) (rest : List (Event Pubkey Record)) :
    l.run codec (.addAccount call ::
      (if call.initialData.isNone then [.resume l.tasks.length (.fetched (.ok data))] else []) ++
      Event.resume l.tasks.length (.sent true) :: rest) =
      { l.setRegistry ({ l.toRegistry.registerFresh call (call.key codec) (call.decodeFn l.programDecode) with
          dataMap := l.dataMap.insert (call.key codec) (call.initialData.or data) }.recordInflight
            call.pubkey call.oracleId).1 with
        tasks := l.tasks ++ [Task.finished]
        wire := l.wire ++ [WireCall.accountSubscribe conn (l.requestIdCounter + 1) call.pubkey] }.run codec rest := by
  have hsub' := (Dict.get?_eq_none_iff _ _).mpr hsub
  have hkey' := (Dict.get?_eq_none_iff _ _).mpr hkey
  obtain ⟨⟨reg, programDecode, ws, task, running⟩, tasks, connections, wire⟩ := l
  cases hws
  cases hinit : call.initialData <;>
    simp [run_cons, step, spawn, addAccount, Registry.snapshotNeeded, hsub', hkey', storeSnapshot,
      requestSubscription, Registry.reserveRequest, hsub, record, hinit, setRegistry, Registry.storeKey,
      Registry.registerFresh_dataMap, Registry.recordInflight_snd, resumeTask_sent]

/-- The reader waiting in `recv` while `_running` holds handles the frame and waits again. -/
theorem step_received (l : EventLoop Pubkey Record) {r : Nat} (cancelled : Bool) (conn : Nat)
    (hreader : l.tasks[r]? = some (.reader cancelled (.receiving conn))) (hrunning : l.running = true)
    (msg : Msg) :
    l.step codec (.resume r (.received (some msg))) = some (l.setRegistry (l.toRegistry.handleMsg codec msg)) := by
  simp [step_resume codec l hreader, resumeTask_reader, resumeReader_received, hrunning, readNext, readerTask,
    setRegistry, set_of_getElem? hreader]

theorem step_removeAccount (l : EventLoop Pubkey Record) (P : Pubkey) (oracleId : Option String) :
    l.step codec (.removeAccount P oracleId) = some (l.removeAccount codec P oracleId) :=
  rfl

/-- `remove_account` with a socket, once its registry part has reached the subscription: the
call of line 177, which raises. -/
theorem removeAccount_record (l : EventLoop Pubkey Record) {P : Pubkey} {oracleId : Option String}
    {reg : Registry Pubkey Record} {subscriptionId : Int}
    (h : l.toRegistry.removeAccount codec P oracleId = (reg, some subscriptionId)) {conn : Nat}
    (hws : l.ws = some conn) :
    l.removeAccount codec P oracleId = (l.setRegistry reg).record (.unsubscribeRaised subscriptionId) := by
  simp only [removeAccount, h, hws]

/-- Adding a feed for an unseen address on an open socket, the server's confirmation of its
request with a new subscription id, and `remove_account` of the address give back every map
of the subscriber; the request counter has moved by one and the coroutine of `add_account` has
finished.  The wire carries the subscribe frame, which reaches the server, and the call of
`account_unsubscribe`, which raises: the server's subscription stays. -/
theorem removeAccount_undoes_addAccount (l : EventLoop Pubkey Record) {conn readerConn r : Nat}
    {cancelled : Bool} (hws : l.ws = some conn) (hrunning : l.running = true)
    (hreader : l.tasks[r]? = some (.reader cancelled (.receiving readerConn)))
    (call : AddAccountCall Pubkey Record) (hunseen : l.toRegistry.Unseen codec call)
    (data : Option (DataAndSlot Record)) {subscriptionId : Int} (hsid : subscriptionId ∉ l.subscriptionMap) :
    l.run codec (.addAccount call ::
      (if call.initialData.isNone then [.resume l.tasks.length (.fetched (.ok data))] else []) ++
      [.resume l.tasks.length (.sent true),
       .resume r (.received (some ⟨.int subscriptionId, .int (l.requestIdCounter + 1), none⟩)),
       .removeAccount call.pubkey none]) =
    some { l with
      requestIdCounter := l.requestIdCounter + 1
      tasks := l.tasks ++ [.finished]
      wire := l.wire ++ [.accountSubscribe conn (l.requestIdCounter + 1) call.pubkey,
        .unsubscribeRaised subscriptionId] } := by
  have hr : r < l.tasks.length := (List.getElem?_eq_some_iff.mp hreader).1
  rw [run_addAccount_sent codec l hws call hunseen.subscription hunseen.keyValue data, run_cons,
    step_received codec _ cancelled readerConn ?_ ?_, Option.some_bind, run_cons]
  · rw [step_removeAccount, Option.some_bind, run_nil]
    refine congrArg some (Eq.trans
      (removeAccount_record codec _ (Registry.removeAccount_confirm_registerFresh hunseen _ _ hsid) hws) ?_)
    simp only [record, setRegistry, List.append_assoc, List.singleton_append]
  · simpa [List.getElem?_append_left hr] using hreader
  · exact hrunning

end EventLoop

/-- The subscriber once `subscribe()` has connected: socket `0` open and the reader waiting in
`recv`, nothing registered. -/
def listeningLoop : EventLoop SampleAddress Payload :=
  { EventLoop.init rawDecoder with
    ws := some 0, task := some 0, running := true, tasks := [.reader false (.receiving 0)], connections := 1 }

example : (EventLoop.init rawDecoder).run sampleCodec
    [.subscribe, .resume 0 .completed, .resume 0 (.connected true)] = some listeningLoop := rfl

/-- An oracle feed of `ADDR1` with no initial value, so its snapshot is fetched first. -/
def oracleFeed : AddAccountCall SampleAddress Payload := ⟨.addr1, none, none, some "ADDR1-1"⟩

theorem removeAccount_undoes_addAccount_sample :
    listeningLoop.toRegistry.Unseen sampleCodec oracleFeed ∧ 42 ∉ listeningLoop.subscriptionMap ∧
      listeningLoop.run sampleCodec
        [.addAccount oracleFeed, .resume 1 (.fetched (.ok (some ⟨7, .bytes [1]⟩))), .resume 1 (.sent true),
         .resume 0 (.received (some ⟨.int 42, .int 1, none⟩)), .removeAccount .addr1 none] =
        some { listeningLoop with
          requestIdCounter := 1
          tasks := [.reader false (.receiving 0), .finished]
          wire := [.accountSubscribe 0 1 .addr1, .unsubscribeRaised 42] } :=
  have hunseen : listeningLoop.toRegistry.Unseen sampleCodec oracleFeed :=
    ⟨Dict.not_mem_empty _, Dict.not_mem_empty _, Dict.not_mem_empty _, Dict.not_mem_empty _,
      Dict.not_mem_empty _, Dict.not_mem_empty _, Dict.not_mem_empty _, fun _ _ => Dict.not_mem_empty _,
      Dict.not_mem_empty _⟩
  ⟨hunseen, Dict.not_mem_empty _,
    EventLoop.removeAccount_undoes_addAccount sampleCodec listeningLoop rfl rfl rfl oracleFeed hunseen
      (some ⟨7, .bytes [1]⟩) (Dict.not_mem_empty _)⟩

end DriftSubscriber
