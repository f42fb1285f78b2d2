import Mathlib.Data.List.Induction
import SoapClasses.Proofs.MemberTableUpdates

/-!
# Histories of member tables

A table that members are put into and erased from is described by the calls alone. Under a name stands
what the last call on that name has brought, and nothing if that call was a removal. The names stand in
the order in which they arrived: a put brings a name to the end only while the name is absent, so the
place of a name is that of the last call which found it absent and brought it.
-/

namespace SoapClasses

open Named

variable {α : Type} [Named α]

/-- What a call does to the members of one kind: it brings a member, takes the member of a name away, or
leaves them alone. -/
inductive MemberCall (α : Type) where
  | bring (member : α)
  | remove (name : String)
  | none
  deriving DecidableEq, Repr

namespace MemberCall

def concerns (name : String) : MemberCall α → Bool
  | .bring member => nameOf member == name
  | .remove removed => removed == name
  | .none => false

def brings (name : String) : MemberCall α → Bool
  | .bring member => nameOf member == name
  | _ => false

def member? : MemberCall α → Option α
  | .bring member => some member
  | _ => Option.none

end MemberCall

/-- What the last call on a name has brought, if it was not a removal. -/
def lastBrought (calls : List (MemberCall α)) (name : String) : Option α :=
  (calls.reverse.find? (MemberCall.concerns name)).bind MemberCall.member?

/-- The positions of the calls that brought a name which was absent before them. -/
def arrivals (calls : List (MemberCall α)) (name : String) : List Nat :=
  (List.range calls.length).filter (fun position =>
    calls[position]?.any (MemberCall.brings name) &&
      (lastBrought (calls.take position) name).isNone)

def lastArrival (calls : List (MemberCall α)) (name : String) : Option Nat :=
  (arrivals calls name).getLast?

/-- The last arrival of one name comes before that of another. -/
def ArrivedBefore (calls : List (MemberCall α)) (first next : String) : Prop :=
  ∃ earlier later, lastArrival calls first = some earlier ∧ lastArrival calls next = some later ∧
    earlier < later

theorem lastBrought_concat (calls : List (MemberCall α)) (call : MemberCall α) (name : String) :
    lastBrought (calls ++ [call]) name =
      if call.concerns name = true then call.member? else lastBrought calls name := by
  rw [lastBrought, List.reverse_append, List.reverse_singleton, List.singleton_append,
    List.find?_cons]
  cases call.concerns name <;> rfl

theorem mem_of_lastBrought {calls : List (MemberCall α)} {name : String} {member : α}
    (h : lastBrought calls name = some member) : .bring member ∈ calls := by
  obtain ⟨call, hfound, hmember⟩ := Option.bind_eq_some_iff.mp h
  have hmem := List.mem_reverse.mp (List.mem_of_find?_eq_some hfound)
  cases call with
  | bring other => exact Option.some.inj hmember ▸ hmem
  | remove removed => cases hmember
  | none => cases hmember

theorem arrivals_concat (calls : List (MemberCall α)) (call : MemberCall α) (name : String) :
    arrivals (calls ++ [call]) name = arrivals calls name ++
      if call.brings name = true ∧ lastBrought calls name = none then [calls.length] else [] := by
  have hearlier : (List.range calls.length).filter (fun position =>
      (calls ++ [call])[position]?.any (MemberCall.brings name) &&
        (lastBrought ((calls ++ [call]).take position) name).isNone) = arrivals calls name := by
    apply List.filter_congr
    intro position hmem
    have hlt : position < calls.length := List.mem_range.mp hmem
    rw [List.getElem?_append_left hlt, List.take_append_of_le_length (Nat.le_of_lt hlt)]
  rw [arrivals, List.length_append, List.length_singleton, List.range_succ, List.filter_append,
    hearlier]
  congr 1
  by_cases hbrings : call.brings name = true <;> by_cases habsent : lastBrought calls name = none <;>
    simp [hbrings, habsent]

theorem lastArrival_concat_of_absent {calls : List (MemberCall α)} {call : MemberCall α} {name : String}
    (hbrings : call.brings name = true) (habsent : lastBrought calls name = none) :
    lastArrival (calls ++ [call]) name = some calls.length := by
  simp [lastArrival, arrivals_concat, hbrings, habsent]

theorem lastArrival_concat_of_present {calls : List (MemberCall α)} {call : MemberCall α} {name : String}
    (h : call.brings name = true → lastBrought calls name ≠ none) :
    lastArrival (calls ++ [call]) name = lastArrival calls name := by
  have hnone : ¬ (call.brings name = true ∧ lastBrought calls name = none) :=
    fun hboth => h hboth.1 hboth.2
  rw [lastArrival, arrivals_concat, if_neg hnone, List.append_nil, lastArrival]

theorem lastArrival_lt {calls : List (MemberCall α)} {name : String} {position : Nat}
    (h : lastArrival calls name = some position) : position < calls.length :=
  List.mem_range.mp (List.mem_filter.mp (List.mem_of_getLast? h)).1

namespace MemberTable

theorem find?_erase (table : MemberTable α) (removed name : String) :
    (table.erase removed).find? name = if removed = name then none else table.find? name := by
  rw [find?, toList_erase, List.find?_filter]
  by_cases h : removed = name
  · rw [if_pos h, List.find?_eq_none]
    intro member _
    simp [h]
  · rw [if_neg h, find?]
    congr 1
    funext member
    by_cases hname : nameOf member = name
    · simp [hname, Ne.symm h]
    · simp [hname]

theorem names_erase (table : MemberTable α) (removed : String) :
    (table.erase removed).names = table.names.filter (fun name => name != removed) := by
  rw [names, toList_erase, names, List.filter_map]
  rfl

theorem mem_names_iff (table : MemberTable α) (name : String) :
    name ∈ table.names ↔ table.find? name ≠ none := by
  rw [names, find?, Ne, List.find?_eq_none, List.mem_map]
  simp

def call (table : MemberTable α) : MemberCall α → MemberTable α
  | .bring member => table.put member
  | .remove name => table.erase name
  | .none => table

def callAll (table : MemberTable α) (calls : List (MemberCall α)) : MemberTable α :=
  calls.foldl call table

/-- The table is what a history of calls has left: each name once, under it what the last call on it has
brought, and the names in the order of their last arrivals. -/
structure Records (table : MemberTable α) (calls : List (MemberCall α)) : Prop where
  once : table.names.Nodup
  holds : ∀ name, table.find? name = lastBrought calls name
  arrived : ∀ name ∈ table.names, ∃ position, lastArrival calls name = some position
  ordered : table.names.Pairwise (ArrivedBefore calls)

theorem find?_call (table : MemberTable α) (call : MemberCall α) (name : String) :
    (table.call call).find? name =
      if call.concerns name = true then call.member? else table.find? name := by
  cases call with
  | bring member =>
    rw [MemberTable.call, find?_put]
    simp only [MemberCall.concerns, beq_iff_eq, MemberCall.member?, eq_comm (a := name)]
  | remove removed =>
    rw [MemberTable.call, find?_erase]
    simp only [MemberCall.concerns, beq_iff_eq, MemberCall.member?]
  | none => rfl

section

variable {table : MemberTable α} {calls : List (MemberCall α)}

theorem Records.find?_concat (h : table.Records calls) (call : MemberCall α) (name : String) :
    (table.call call).find? name = lastBrought (calls ++ [call]) name := by
  rw [find?_call, lastBrought_concat, h.holds]

/-- A call that finds no name absent lets names go at most; those that stay keep their order. -/
theorem Records.call_of_present (h : table.Records calls) (call : MemberCall α)
    (hnames : (table.call call).names.Sublist table.names)
    (hpresent : ∀ name, call.brings name = true → lastBrought calls name ≠ none) :
    (table.call call).Records (calls ++ [call]) := by
  have harrival : ∀ name, lastArrival (calls ++ [call]) name = lastArrival calls name :=
    fun name => lastArrival_concat_of_present (hpresent name)
  refine ⟨(table.call call).distinct, h.find?_concat call, ?_, ?_⟩
  · intro name hmem
    rw [harrival]
    exact h.arrived name (hnames.subset hmem)
  · apply (h.ordered.sublist hnames).imp
    rintro first next ⟨earlier, later, hfirst, hnext, hlt⟩
    exact ⟨earlier, later, (harrival first).trans hfirst, (harrival next).trans hnext, hlt⟩

theorem Records.put_of_absent (h : table.Records calls) (member : α)
    (habsent : nameOf member ∉ table.names) :
    (table.put member).Records (calls ++ [.bring member]) := by
  have hnames := names_put_of_not_mem table member habsent
  have hnone : lastBrought calls (nameOf member) = none := by
    rw [mem_names_iff, not_not, h.holds] at habsent
    exact habsent
  have hnew : lastArrival (calls ++ [.bring member]) (nameOf member) = some calls.length :=
    lastArrival_concat_of_absent (beq_self_eq_true _) hnone
  have hold : ∀ name ∈ table.names,
      lastArrival (calls ++ [.bring member]) name = lastArrival calls name := by
    intro name hmem
    apply lastArrival_concat_of_present
    intro hbrings
    exact absurd ((beq_iff_eq.mp hbrings) ▸ hmem) habsent
  refine ⟨(table.put member).distinct, h.find?_concat (.bring member), ?_, ?_⟩
  · rw [hnames]
    intro name hmem
    rcases List.mem_append.mp hmem with hmem | hmem
    · rw [hold name hmem]
      exact h.arrived name hmem
    · rw [List.mem_singleton.mp hmem]
      exact ⟨calls.length, hnew⟩
  · rw [hnames, List.pairwise_append]
    refine ⟨?_, List.pairwise_singleton _ _, ?_⟩
    · apply h.ordered.imp_of_mem
      rintro first next hfirst hnext ⟨earlier, later, hearlier, hlater, hlt⟩
      exact ⟨earlier, later, (hold first hfirst).trans hearlier, (hold next hnext).trans hlater, hlt⟩
    · intro name hmem last hlast
      rw [List.mem_singleton.mp hlast]
      obtain ⟨position, hposition⟩ := h.arrived name hmem
      exact ⟨position, calls.length, (hold name hmem).trans hposition, hnew, lastArrival_lt hposition⟩

theorem Records.call (h : table.Records calls) (call : MemberCall α) :
    (table.call call).Records (calls ++ [call]) := by
  cases call with
  | bring member =>
    by_cases hmem : nameOf member ∈ table.names
    · apply h.call_of_present
      · exact (names_put_of_mem table member hmem).symm ▸ List.Sublist.refl _
      · intro name hbrings
        rw [← h.holds, ← mem_names_iff]
        exact (beq_iff_eq.mp hbrings) ▸ hmem
    · exact h.put_of_absent member hmem
  | remove removed =>
    apply h.call_of_present
    · exact (names_erase table removed).symm ▸ List.filter_sublist
    · intro name hbrings
      cases hbrings
  | none =>
    apply h.call_of_present
    · exact List.Sublist.refl _
    · intro name hbrings
      cases hbrings

end

/-- Whatever is put into an empty table and erased from it again, the table records the calls. -/
theorem records_calls (calls : List (MemberCall α)) : (empty.callAll calls).Records calls := by
  induction calls using List.reverseRecOn with
  | nil => exact ⟨List.nodup_nil, fun _ => rfl, fun _ hmem => absurd hmem List.not_mem_nil,
      List.Pairwise.nil⟩
  | append_singleton calls call ih =>
    rw [callAll, List.foldl_append]
    exact ih.call call

theorem Records.exists_bring_of_find? {β : Type} {table : MemberTable α} {changes : List β}
    {callOf : β → MemberCall α} (h : table.Records (changes.map callOf)) {name : String} {member : α}
    (hfound : table.find? name = some member) :
    nameOf member = name ∧ ∃ change ∈ changes, callOf change = .bring member := by
  refine ⟨((table.find?_eq_some_iff name member).mp hfound).2, ?_⟩
  rw [h.holds] at hfound
  exact List.mem_map.mp (mem_of_lastBrought hfound)

end MemberTable

end SoapClasses
