import KoServer.Lib.Turns
import KoServer.Proofs.PartyCommand
import KoServer.Proofs.Warehouse
import KoServer.Spec.ItemRouting
import Mathlib.Data.Finset.Card
import Mathlib.Data.List.Rotate

/-! Items go round the party: the members who can take one are served in turn. -/

namespace KoServer

open Turns

section

variable {members : List (Option SessionId)} {accepts : SessionId → Bool} {routing passes : ℕ}

theorem nextRouting_lt (routing : ℕ) : nextRouting routing < MAX_PARTY_USERS := by
  unfold nextRouting MAX_PARTY_USERS
  split_ifs <;> omega

def slotsFrom (members : List (Option SessionId)) (routing : ℕ) : List (Option SessionId) :=
  members.rotate (nextRouting routing)

/-- The slot behind the cursor goes to the end when the cursor moves on to it. -/
theorem slotsFrom_eq (hlength : members.length = MAX_PARTY_USERS) (routing : ℕ) : ∃ rest,
    slotsFrom members routing = members.getD (nextRouting routing) none :: rest ∧
    slotsFrom members (nextRouting routing) =
      rest ++ [members.getD (nextRouting routing) none] := by
  have hlt := nextRouting_lt routing
  unfold slotsFrom
  generalize nextRouting routing = i at *
  have hhead : (members.rotate i).head? = some (members.getD i none) := by
    rw [List.head?_rotate (by omega)]
    rw [List.getD_eq_getElem _ _ (by omega), List.getElem?_eq_getElem]
  obtain ⟨rest, hrest⟩ := List.head?_eq_some_iff.mp hhead
  refine ⟨rest, hrest, ?_⟩
  have hnext : members.rotate (nextRouting i) = members.rotate (i + 1) := by
    unfold nextRouting
    split_ifs with hwrap
    · obtain rfl : i = 7 := by
        unfold MAX_PARTY_USERS at hlt
        omega
      rw [List.rotate_zero]
      exact (hlength ▸ members.rotate_length).symm
    · rfl
  rw [hnext, ← List.rotate_rotate, hrest, List.rotate_cons_succ, List.rotate_zero]

theorem routingLoop_eq (hlength : members.length = MAX_PARTY_USERS) :
    pass (fun slot => slot.filter accepts) passes (slotsFrom members routing) =
      ((routingLoop members accepts passes routing).1,
        slotsFrom members (routingLoop members accepts passes routing).2) := by
  induction passes generalizing routing with
  | zero => rfl
  | succ passes ih =>
    obtain ⟨rest, hslots, hnext⟩ := slotsFrom_eq hlength routing
    rw [hslots]
    unfold Turns.pass routingLoop
    dsimp only
    rw [← hnext]
    cases members.getD (nextRouting routing) none with
    | none => exact ih
    | some memberSid =>
      dsimp only
      rw [Option.filter_some]
      split_ifs
      · rfl
      · exact ih

end

def runLootParties (steps : List (PartyEnv × PartyEvent)) (itemRouting : ℕ → ℕ) (partyId : ℕ) :
    Option LootParty :=
  match hp : (Run.run partyStep .start steps).parties partyId with
  | none => none
  | some party =>
    some { party with
      itemRouting := itemRouting partyId
      members_nodup := activeMembers_nodup steps hp }

/-- Whatever the requests were, every party can share what it finds. -/
theorem toParty_runLootParties (steps : List (PartyEnv × PartyEvent)) (itemRouting : ℕ → ℕ)
    (partyId : ℕ) : (runLootParties steps itemRouting partyId).map LootParty.toParty =
      (Run.run partyStep .start steps).parties partyId := by
  unfold runLootParties
  split <;> exact Eq.symm ‹_›

section

variable {Pos : Type*} {table : ItemTable} {partyId : ℕ} {party : LootParty}
  {parties : ℕ → Option LootParty} {call : RoutingCall Pos} {eligible : Finset SessionId}

def turnsOf (eligible : Finset SessionId) (members : List (Option SessionId)) (routing : ℕ) :
    List SessionId :=
  (slotsFrom members routing).filterMap fun slot => slot.filter (· ∈ eligible)

theorem mem_turnsOf {sid : SessionId} {routing : ℕ} :
    sid ∈ turnsOf eligible party.members routing ↔ sid ∈ party.activeMembers ∧ sid ∈ eligible := by
  unfold turnsOf slotsFrom Party.activeMembers
  rw [Roster.mem_occupants, List.mem_filterMap]
  simp [Option.filter_eq_some_iff]

theorem nodup_turnsOf {routing : ℕ} : (turnsOf eligible party.members routing).Nodup := by
  have hslots : (turnsOf eligible party.members routing).Perm
      (party.activeMembers.filter (· ∈ eligible)) := by
    unfold turnsOf slotsFrom Party.activeMembers Roster.occupants
    rw [List.filter_filterMap]
    exact (List.rotate_perm ..).filterMap _
  exact hslots.nodup_iff.mpr (party.members_nodup.filter _)

/-- A call serves whose turn it is and moves the cursor behind that slot. -/
theorem getItemRoutingUser_spec (hparty : parties partyId = some party)
    (heligible : ∀ sid, sid ∈ eligible ↔
      sid ∈ party.activeMembers ∧ call.isEligible table sid = true) :
    (getItemRoutingUser table partyId call parties).1 =
      (turnsOf eligible party.members party.itemRouting).head? ∧
    ∃ routing, (getItemRoutingUser table partyId call parties).2 partyId =
        some { party with itemRouting := routing } ∧
      turnsOf eligible party.members routing =
        advance (turnsOf eligible party.members party.itemRouting) := by
  unfold getItemRoutingUser
  rw [hparty]
  unfold RoutingCall.isEligible at heligible
  cases hsender : call.carriers call.senderSid with
  | none =>
    have hnone : turnsOf eligible party.members party.itemRouting = [] := by
      refine List.eq_nil_iff_forall_not_mem.mpr fun sid hsid => ?_
      have hboth := (heligible sid).mp (mem_turnsOf.mp hsid).2
      simp [hsender] at hboth
    rw [hnone]
    exact ⟨rfl, party.itemRouting, hparty, hnone⟩
  | some sender =>
    simp only [hsender, Option.any_some] at heligible
    dsimp only
    have hloop := @routingLoop_eq _ (call.accepts table sender.position) party.itemRouting 8
      party.members_length
    have hlength : 8 = (slotsFrom party.members party.itemRouting).length := by
      unfold slotsFrom
      rw [List.length_rotate, party.members_length]
      rfl
    have hsame : pass (fun slot => slot.filter (call.accepts table sender.position)) 8
        (slotsFrom party.members party.itemRouting) =
        pass (fun slot => slot.filter (· ∈ eligible)) 8
          (slotsFrom party.members party.itemRouting) := by
      refine pass_congr fun slot hslot => ?_
      cases slot with
      | none => rfl
      | some sid =>
        have hactive : sid ∈ party.activeMembers :=
          Roster.mem_occupants.mpr (List.mem_rotate.mp hslot)
        rw [Option.filter_some, Option.filter_some]
        simp only [heligible sid, hactive, true_and, decide_eq_true_eq]
    obtain ⟨hhead, hrest⟩ := pass_filterMap (fun slot => slot.filter (· ∈ eligible))
      (slotsFrom party.members party.itemRouting)
    rw [← hlength, ← hsame, hloop] at hhead hrest
    exact ⟨hhead, _, Function.update_self .., hrest⟩

theorem routeItems_eq {calls : List (RoutingCall Pos)} (hparty : parties partyId = some party)
    (heligible : ∀ call ∈ calls, ∀ sid, sid ∈ eligible ↔
      sid ∈ party.activeMembers ∧ call.isEligible table sid = true) :
    routeItems table partyId calls parties =
      served calls.length (turnsOf eligible party.members party.itemRouting) := by
  induction calls generalizing parties party with
  | nil => rfl
  | cons call calls ih =>
    obtain ⟨hcall, hcalls⟩ := List.forall_mem_cons.mp heligible
    obtain ⟨hhead, routing, hparty', hturns⟩ := getItemRoutingUser_spec hparty hcall
    have hrest := ih hparty' hcalls
    rw [hturns] at hrest
    rw [List.length_cons]
    unfold routeItems served
    dsimp only
    rw [hhead, hrest]

/-- Over any number of calls everybody who is eligible is served as often as the others. -/
theorem item_routing_fair (table : ItemTable) (partyId : ℕ) (party : LootParty)
    (parties : ℕ → Option LootParty) (calls : List (RoutingCall Pos)) (eligible : Finset SessionId)
    (hparty : parties partyId = some party)
    (heligible : ∀ call ∈ calls, ∀ sid, sid ∈ eligible ↔
      sid ∈ party.activeMembers ∧ call.isEligible table sid = true) :
    (∀ receiver ∈ routeItems table partyId calls parties,
      (receiver.isSome ↔ eligible.Nonempty) ∧ ∀ sid, receiver = some sid → sid ∈ eligible) ∧
    ∀ sid ∈ eligible,
      (routeItems table partyId calls parties).count (some sid) = calls.length / eligible.card ∨
      (routeItems table partyId calls parties).count (some sid) =
        (calls.length + eligible.card - 1) / eligible.card := by
  rw [routeItems_eq hparty heligible]
  cases calls with
  | nil => exact ⟨fun _ h => absurd h List.not_mem_nil, fun _ _ => .inl (by simp [served])⟩
  | cons call calls =>
    have hcall := heligible call List.mem_cons_self
    generalize hturns : turnsOf eligible party.members party.itemRouting = turns
    have hmem : ∀ sid, sid ∈ turns ↔ sid ∈ eligible := by
      intro sid
      rw [← hturns, mem_turnsOf]
      exact and_iff_right_of_imp fun hsid => ((hcall sid).mp hsid).1
    have hnodup : turns.Nodup := hturns ▸ nodup_turnsOf
    have hall : turns.toFinset = eligible := Finset.ext fun sid => by rw [List.mem_toFinset, hmem]
    have hcard : turns.length = eligible.card := by
      rw [← hall, List.toFinset_card_of_nodup hnodup]
    refine ⟨fun receiver hreceiver => ?_, fun sid hsid => ?_⟩
    · obtain ⟨hsome, hserved⟩ := of_mem_served hreceiver
      refine ⟨hsome.trans ?_, fun sid hsid => (hmem sid).mp (hserved sid hsid)⟩
      rw [← hall, List.toFinset_nonempty_iff]
    · rw [← hcard]
      exact fair hnodup ((hmem sid).mpr hsid)

end

/-- Three in a party, the third too far away. -/
def threeHunters : LootParty where
  toParty :=
    { Party.new 1 with
      members := [some 1, some 2, some 3, none, none, none, none, none]
      members_length := rfl }
  itemRouting := 0
  members_nodup := by decide

def potionCall : RoutingCall ℕ where
  carriers := fun sid =>
    some ⟨if sid = 3 then 90 else 10, some (1, 100), Inventory.padded [], quietInn⟩
  inRange := fun a b => a ≤ b + 50 ∧ b ≤ a + 50
  senderSid := 1
  itemId := 389010000
  count := 1

theorem threeHunters_fair : (1 : ℕ) ∈ ({1, 2} : Finset ℕ) ∧
    ((routeItems (fun _ => some {}) 7 [potionCall, potionCall, potionCall]
        fun _ => some threeHunters).count (some 1) = 1 ∨
      (routeItems (fun _ => some {}) 7 [potionCall, potionCall, potionCall]
        fun _ => some threeHunters).count (some 1) = 2) := by
  have hmem : (1 : ℕ) ∈ ({1, 2} : Finset ℕ) := by decide
  refine ⟨hmem, (item_routing_fair (fun _ => some {}) 7 threeHunters (fun _ => some threeHunters)
    [potionCall, potionCall, potionCall] {1, 2} rfl (fun call hcall sid => ?_)).2 1 hmem⟩
  obtain rfl : call = potionCall := by simpa using hcall
  constructor
  · intro hsid
    rcases Finset.mem_insert.mp hsid with rfl | hsid
    · decide
    · obtain rfl := Finset.mem_singleton.mp hsid
      decide
  · rintro ⟨hactive, heligible⟩
    have hmembers : threeHunters.activeMembers = [1, 2, 3] := by decide
    rw [hmembers] at hactive
    rcases (by simpa using hactive : sid = 1 ∨ sid = 2 ∨ sid = 3) with rfl | rfl | rfl
    · decide
    · decide
    · exact absurd heligible (by decide)

end KoServer
