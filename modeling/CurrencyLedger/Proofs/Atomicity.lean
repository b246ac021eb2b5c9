import CurrencyLedger.Proofs.Calls

/-!
All or nothing.

A call that fails leaves no trace in the tables. If it was refused before its unit of work opened,
the session is as it was, with whatever had been written and not yet committed; if it failed later,
for whatever reason, the session is back at the last commit, so that none of the legs moved and none
of the wallets created on the way is left. That commit may be one of a rival, who has a transaction
of its own and came while the call was at work: then its wallet is all that has been added.
-/

namespace CurrencyLedger.Operation

open Session

/-- Moving the legs of an exchange stays in one unit of work. -/
theorem within_moveLegs (userId : Int) (plan : Exchange.Plan) (p : History.Particulars) :
    (moveLegs userId plan p).Within SameUnit := by
  refine Action.within_bind (within_sameUnit (Wallets.within_find _ _)) fun found => ?_
  cases found with
  | none => exact Action.within_lift _
  | some source =>
    refine Action.within_bind (within_sameUnit (Wallets.within_debit _ _ _)) fun _ => ?_
    refine Action.within_bind (Wallets.within_resolve _ _) fun _ => ?_
    refine Action.within_bind (within_sameUnit (Wallets.within_credit _ _ _)) fun _ => ?_
    exact Action.within_pure _

/-- So does carrying out the order itself, up to the commit. -/
theorem Order.within_move (userId : Int) (sessionId : String) (order : Order) :
    (order.move userId sessionId).Within SameUnit := by
  cases order with
  | funding n code =>
    refine Action.within_bind (Wallets.within_resolve _ _) fun _ => ?_
    refine Action.within_bind (within_sameUnit (Wallets.within_credit _ _ _)) fun _ => ?_
    exact Action.within_pure _
  | conversion c => exact Action.within_map _ (within_moveLegs _ _ _)
  | trade t => exact Action.within_map _ (within_moveLegs _ _ _)

theorem Order.within_enter (order : Order) : order.enter.Within Edited := by
  cases order with
  | funding n code => exact Action.within_pure _
  | conversion c => exact within_draw _
  | trade t => exact within_draw _

/-- An order that cannot be carried out has been rolled back. -/
theorem Order.on_carryOut_eq_error {order : Order} {userId : Int} {o : Options} {s t : Session}
    {f : Failure} (h : (order.carryOut userId o).on s = (.error f, t)) :
    ∃ u, SameUnit s u ∧ t = u.rollback := by
  rw [carryOut, Action.on_bind_eq_error] at h
  rcases h with h | ⟨sessionId, v, hv, h⟩
  · cases order <;> simp [enter, draw] at h
  · have hsv : SameUnit s v := by simpa [hv] using (order.within_enter s).sameUnit
    obtain ⟨u, hvu, rfl⟩ := on_unitOfWork_eq_error (order.within_move userId sessionId) h
    exact ⟨u, hsv.trans hvu, rfl⟩

/--
A call that fails either gave no order, and the session is untouched, or leaves exactly the tables
of the last commit, in a session that is ready for more; and it announces nothing.
-/
theorem failed_call_leaves_no_trace {c : Call} {o : Options} {s t : Session} {f : Failure}
    (h : (c.run o).on s = (.error f, t)) :
    (c.order = .error f ∧ t = s) ∨
      ((∃ order, c.order = .ok order) ∧ Upholds s t ∧ t.working = t.committed ∧
        t.aborted = false ∧ t.announcements = s.announcements) := by
  rcases Call.on_run_eq_error.1 h with ⟨hc, rfl⟩ | ⟨order, hc, h⟩
  · exact .inl ⟨hc, rfl⟩
  · obtain ⟨u, hsu, rfl⟩ := order.on_carryOut_eq_error h
    exact .inr ⟨⟨order, hc⟩, hsu.upholds.rollback, rfl, rfl, hsu.announcements⟩

/-- A purse of a thousand kobo. -/
def purse : Wallet where
  id := "purse"
  userId := 1
  currency := "NGN"
  balance := 1000
  createdAt := ⟨⟨2024, 1, 15⟩, 12, 0, 0⟩
  updatedAt := ⟨⟨2024, 1, 15⟩, 12, 0, 0⟩

/-- A session with a change that is not committed, whose next credit cannot be stored. -/
def interrupted : Session where
  committed := { wallets := [purse] }
  working := { wallets := [{ purse with balance := 700 }] }
  clock := ⟨⟨2024, 1, 15⟩, 12, 0, 0⟩
  faults := fun st => if st = .setBalance .credit then some .runtime else none

/-- A conversion of three hundred kobo at a rate of two. -/
def conversionOfKobo : Call :=
  .convert (Exchange.oneRate (.int 2)) 1 (.text "ngn") (.text "USD") (.int 300)

theorem interrupted_conversion_leaves_no_trace :
    Action.failure? ((conversionOfKobo.run {}).on interrupted).1 = some .runtime ∧
      ((conversionOfKobo.order = .error .runtime ∧
        ((conversionOfKobo.run {}).on interrupted).2 = interrupted) ∨
      ((∃ order, conversionOfKobo.order = .ok order) ∧
        ((conversionOfKobo.run {}).on interrupted).2.committed = { wallets := [purse] } ∧
        ((conversionOfKobo.run {}).on interrupted).2.working = { wallets := [purse] } ∧
        ((conversionOfKobo.run {}).on interrupted).2.aborted = false ∧
        ((conversionOfKobo.run {}).on interrupted).2.announcements = [])) := by
  have h : Action.failure? ((conversionOfKobo.run {}).on interrupted).1 = some .runtime := by
    decide +kernel
  refine ⟨h, ?_⟩
  rcases failed_call_leaves_no_trace (Action.on_eq_error h) with
    hrefused | ⟨horder, hupholds, hworking, haborted, hannounced⟩
  · exact .inl hrefused
  · have hcommitted := hupholds.committed (shared_of_none rfl)
    exact .inr ⟨horder, hcommitted, hworking.trans hcommitted, haborted, hannounced⟩

/-- A rival with a transaction of its own, whose wallet is there although the call has failed. -/
example :
    let rival : Rival := { userId := 1, currency := "USD", balance := 50, independent := true }
    ((conversionOfKobo.run {}).on { interrupted with rival := some rival }).2.working.wallets.map
      (fun w => (w.id, w.balance)) = [("purse", 1000), ("rival1", 50)] := by
  decide +kernel

end CurrencyLedger.Operation
