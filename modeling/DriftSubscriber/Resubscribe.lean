import DriftSubscriber.EventLoop

/-!
# Resubscribing on a new connection

The batch of lines 219-241 reads one address from each key of `data_map` and
skips the addresses already in `pubkey_to_subscription`.  When the
connection-scoped maps are empty, as the clearing handlers leave them, it
subscribes once every address that a cached key names.  A `ConnectionClosed`
raised by `recv` leaves through the `break` of line 347 instead, which clears
nothing: the next connection skips every address confirmed on the lost one and
keeps routing its old subscription ids.
-/

namespace DriftSubscriber

variable {Pubkey : Type} [DecidableEq Pubkey] (codec : PubkeyCodec Pubkey)

/-! ## The addresses of the batch -/

theorem mem_batchFrom (subscribed : Dict Pubkey Int) (P : Pubkey) :
    ∀ (keys : List String) (seen : List Pubkey),
      P ∈ (batchFrom codec subscribed keys seen).map Prod.fst ↔
        P ∉ seen ∧ P ∉ subscribed ∧ ∃ key ∈ keys, pubkeyOfKey codec key = some P
  | [], _ => by simp [batchFrom]
  | key :: keys, seen => by
      have ih := mem_batchFrom subscribed P keys
      unfold batchFrom
      cases hkey : pubkeyOfKey codec key with
      | none => simp [ih, hkey]
      | some Q =>
          by_cases hQ : Q ∉ seen ∧ Q ∉ subscribed
          · by_cases hPQ : P = Q
            · subst hPQ; simp [hQ, hkey]
            · simp [hQ, ih, hkey, hPQ, Ne.symm hPQ]
          · by_cases hPQ : P = Q
            · subst hPQ
              simp only [hQ, if_false, ih, List.mem_cons]
              constructor
              · exact fun h => absurd ⟨h.1, h.2.1⟩ hQ
              · exact fun h => absurd ⟨h.1, h.2.1⟩ hQ
            · simp [hQ, ih, hkey, Ne.symm hPQ]

theorem batchFrom_nodup (subscribed : Dict Pubkey Int) :
    ∀ (keys : List String) (seen : List Pubkey),
      ((batchFrom codec subscribed keys seen).map Prod.fst).Nodup
  | [], _ => by simp [batchFrom]
  | key :: keys, seen => by
      unfold batchFrom
      cases hkey : pubkeyOfKey codec key with
      | none => exact batchFrom_nodup subscribed keys seen
      | some Q =>
          by_cases hQ : Q ∉ seen ∧ Q ∉ subscribed
          · dsimp only
            rw [if_pos hQ, List.map_cons, List.nodup_cons, mem_batchFrom]
            exact ⟨by simp, batchFrom_nodup subscribed keys (Q :: seen)⟩
          · simpa [hQ] using batchFrom_nodup subscribed keys seen

/-- An address is in the batch exactly when it is not subscribed and a cached key names it. -/
theorem mem_resubscribeBatch {Record : Type} (reg : Registry Pubkey Record) (P : Pubkey) :
    P ∈ (reg.resubscribeBatch codec).map Prod.fst ↔
      P ∉ reg.pubkeyToSubscription ∧ ∃ key ∈ reg.dataMap, pubkeyOfKey codec key = some P := by
  rw [Registry.resubscribeBatch, mem_batchFrom]
  simp [Dict.mem_keys]

/-! ## The frames of the batch -/

namespace EventLoop

variable {Record : Type} (l : EventLoop Pubkey Record)

omit [DecidableEq Pubkey] in
theorem sendBatch_nil (conn : Nat) : l.sendBatch codec conn [] = l.readNext conn := rfl

omit [DecidableEq Pubkey] in
theorem sendBatch_cons (conn : Nat) (P : Pubkey) (key : String) (rest : List (Pubkey × String)) :
    l.sendBatch codec conn ((P, key) :: rest) =
      (l.setRegistry (l.toRegistry.reserveBatchRequest codec P key).1,
        some (.sending conn (l.toRegistry.reserveBatchRequest codec P key).2 P rest)) :=
  rfl

omit [DecidableEq Pubkey] in
theorem readNext_of_running {conn : Nat} (h : l.running = true) :
    l.readNext conn = (l, some (.receiving conn)) := by
  show (if l.running then _ else _) = _
  rw [if_pos h]

/-- Lines 244-271 from the send of `P`, the request `base + n`: whatever each send returns, the
sends that succeed put their frames on the wire in batch order, and a send that raises puts
none, its request retracted. -/
theorem sendBatch_frames {r : Nat} {cancelled : Bool} {conn : Nat} (base : Int) :
    ∀ (rest : List (Pubkey × String)) (m : EventLoop Pubkey Record) (P : Pubkey) (n : Nat)
      (oks : List Bool), m.tasks[r]? = some (.reader cancelled (.sending conn (base + n) P rest)) →
      m.running = true → m.requestIdCounter = base + n → oks.length = rest.length + 1 →
      ∃ m', m.run codec (oks.map fun ok => .resume r (.sent ok)) = some m' ∧
        m'.wire = m.wire ++ ((((P :: rest.map Prod.fst).zip oks).enumFrom n).filter (·.2.2)).map
          fun e => .accountSubscribe conn (base + e.1) e.2.1
  | _, _, _, _, [], _, _, _, hlen => by simp at hlen
  | rest, m, P, n, ok :: oks, hr, hrun, hcounter, hlen => by
      have hlt : r < m.tasks.length := (List.getElem?_eq_some_iff.mp hr).1
      -- the send of `P` returned `ok`: its frame logged, or its request retracted
      obtain ⟨m₁, hm₁, hrun₁, hcounter₁, htasks₁, hwire₁⟩ : ∃ m₁ : EventLoop Pubkey Record,
          m.resumeReader codec cancelled (.sending conn (base + n) P rest) (.sent ok) =
            some (m₁.sendBatch codec conn rest) ∧ m₁.running = true ∧
          m₁.requestIdCounter = base + n ∧ m₁.tasks = m.tasks ∧
          m₁.wire = m.wire ++ if ok then [.accountSubscribe conn (base + n) P] else [] := by
        cases ok
        · exact ⟨_, rfl, hrun, hcounter, rfl, (List.append_nil _).symm⟩
        · exact ⟨_, rfl, hrun, hcounter, rfl, rfl⟩
      rw [List.map_cons, run_cons, step_resume codec m hr, resumeTask_reader, hm₁]
      cases rest with
      | nil =>
          -- the batch is done: the reader goes on to `recv` (line 279)
          cases oks with
          | cons => simp at hlen
          | nil =>
              rw [sendBatch_nil, readNext_of_running m₁ hrun₁]
              refine ⟨_, rfl, ?_⟩
              show m₁.wire = _
              cases ok <;> simp [hwire₁]
      | cons pair rest =>
          obtain ⟨P', key'⟩ := pair
          rw [sendBatch_cons]
          have hid : m₁.requestIdCounter + 1 = base + ↑(n + 1) := by rw [hcounter₁]; omega
          have hr₁ : (m₁.tasks.set r (.reader cancelled (.sending conn (m₁.requestIdCounter + 1) P' rest)))[r]? =
              some (.reader cancelled (.sending conn (base + ↑(n + 1)) P' rest)) := by
            rw [List.getElem?_set_self (htasks₁ ▸ hlt), hid]
          obtain ⟨m', hrun', hwire'⟩ := sendBatch_frames base rest
            { m₁.setRegistry (m₁.toRegistry.reserveBatchRequest codec P' key').1 with
              tasks := m₁.tasks.set r (.reader cancelled
                (.sending conn (m₁.toRegistry.reserveBatchRequest codec P' key').2 P' rest)) }
            P' (n + 1) oks hr₁ hrun₁ hid (by simpa using hlen)
          refine ⟨m', hrun', ?_⟩
          rw [hwire']
          show m₁.wire ++ _ = _
          rw [hwire₁]
          cases ok <;> simp [List.enumFrom_cons]

end EventLoop

/-- Cached keys `ADDR1`, `ADDR1-7`, `ADDR2-٣` (an Arabic-Indic three) and `feed`, nothing
subscribed, and the reader about to connect. -/
def connectingLoop : EventLoop SampleAddress Payload :=
  { (EventLoop.init rawDecoder).setRegistry
      { Registry.init with
        dataMap := (((Dict.empty.insert "ADDR1" none).insert "ADDR1-7" none).insert "ADDR2-\u0663" none).insert
          "feed" none } with
    task := some 0, running := true, tasks := [.reader false .connecting] }

/-- The batch of `connectingLoop` is `ADDR1`, then `ADDR2` read from `ADDR2-٣`; with the second
send raising, only the frame of `ADDR1` goes out. -/
example : (connectingLoop.run sampleCodec [.resume 0 (.connected true), .resume 0 (.sent true),
    .resume 0 (.sent false)]).map (·.wire) = some [.accountSubscribe 0 1 .addr1] := by
  decide

/-! ## The connection lost in `recv` -/

namespace EventLoop

variable {Record : Type}

/-- From any state, a `ConnectionClosed` raised by `recv` takes the reader back to the
handshake through lines 347 and 206 with the registry untouched: the next batch is
computed with the subscriptions of the lost connection still in place. -/
theorem closedByPeer_reconnects_with_registry (l : EventLoop Pubkey Record) {index : Nat}
    {cancelled : Bool} {conn : Nat} (htask : l.tasks[index]? = some (.reader cancelled (.receiving conn)))
    (hrunning : l.running = true) :
    ∃ l', l.run codec [.resume index .closedByPeer, .resume index .completed] = some l' ∧
      l'.toRegistry = l.toRegistry ∧ l'.ws = l.ws ∧
      l'.tasks[index]? = some (.reader cancelled .connecting) := by
  have hlen : index < l.tasks.length := (List.getElem?_eq_some_iff.mp htask).1
  have hset : (l.tasks.set index (.reader cancelled (.closing conn .loop)))[index]? =
      some (.reader cancelled (.closing conn .loop)) := by simp [hlen]
  have hclosed : l.resumeReader codec cancelled (.receiving conn) .closedByPeer =
      some (l, some (.closing conn .loop)) := rfl
  have hloop (l' : EventLoop Pubkey Record) :
      l'.resumeReader codec cancelled (.closing conn .loop) .completed = some l'.whileRunning := rfl
  refine ⟨{ l with tasks := l.tasks.set index (.reader cancelled .connecting) }, ?_, rfl, rfl,
    by simp [hlen]⟩
  rw [run_cons, step_resume codec l htask, resumeTask_reader, hclosed]
  simp only [Option.map_some', Option.some_bind, run_cons]
  rw [step_resume codec _ hset, resumeTask_reader, hloop]
  simp [whileRunning, hrunning, readerTask, run_cons]

end EventLoop

/-- The run of the failing input: `ADDR1` is subscribed and confirmed as `42` on connection
`0`, `recv` raises `ConnectionClosed`, the reader reconnects as connection `1`, and the
server pushes a notification for `42` on it. -/
def closedByPeerRun : List (Event SampleAddress Payload) :=
  [.subscribe, .resume 0 .completed, .resume 0 (.connected true),
   .addAccount ⟨.addr1, none, some ⟨1, .bytes []⟩, none⟩,
   .resume 1 (.sent true),
   .resume 0 (.received (some ⟨.int 42, .int 1, none⟩)),
   .resume 0 .closedByPeer, .resume 0 .completed, .resume 0 (.connected true),
   .resume 0 (.received (some ⟨.account (.ofSlot 7) (.bytes [88]), .null,
     some (.int 42)⟩))]

/-- After that run, two connections were opened, the only subscribe frame ever sent is the
one on connection `0`, `ADDR1` is still bound to the old id `42`, and the notification of
connection `1` for `42` was merged into `ADDR1`. -/
theorem closedByPeer_skips_resubscribe :
    (EventLoop.init rawDecoder).Ends sampleCodec closedByPeerRun fun l =>
      l.connections = 2 ∧ l.wire = [.accountSubscribe 0 1 .addr1] ∧
      l.pubkeyToSubscription.get? .addr1 = some 42 ∧
      (l.dataMap.get? "ADDR1").join.map DataAndSlot.slot = some 7 := by
  decide

end DriftSubscriber
