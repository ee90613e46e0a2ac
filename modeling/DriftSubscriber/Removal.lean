import DriftSubscriber.FanOut

/-!
# Removing a feed

`remove_account(P, oracle_id=k)` drops the entries of `k` (lines 145-152) and returns
at line 155 only while `P` still has an oracle id.  Whether `P` keeps its plain key
`str(P)` does not enter that test: removing the last oracle id of an address that
also has its plain key goes on to lines 169-191, which unsubscribe the address and
drop the plain key's decoder and value.
-/

namespace DriftSubscriber

namespace Registry

variable {Pubkey Record : Type} [DecidableEq Pubkey] (codec : PubkeyCodec Pubkey)
  (reg : Registry Pubkey Record)

theorem dropOracleIds_some (P : Pubkey) (k : String) {ids : PySet String}
    (hids : reg.pubkeyToOracleIds.get? P = some ids) :
    reg.dropOracleIds P (some k) =
      { reg.dropKey k with pubkeyToOracleIds := reg.pubkeyToOracleIds.insert P (ids.discard k) } := by
  simp [dropOracleIds, hids]

end Registry

namespace EventLoop

variable {Pubkey Record : Type} [DecidableEq Pubkey] (codec : PubkeyCodec Pubkey)

end EventLoop

/-- The oracle ids `ADDR1-1` and `ADDR1-2`. -/
def twoOracleIds : PySet String := (PySet.add Dict.empty "ADDR1-1").add "ADDR1-2"

/-- A loop in which `ADDR1` has the oracle ids `ADDR1-1` and `ADDR1-2`. -/
def twoOracleIdsLoop : EventLoop SampleAddress Payload :=
  (EventLoop.init rawDecoder).setRegistry
    ((Registry.init.addOracleId .addr1 "ADDR1-1").addOracleId .addr1 "ADDR1-2")

end DriftSubscriber
