import BrokerRouting.Broker.Journal
import BrokerRouting.Proofs.FanOut
import Mathlib.Algebra.GroupWithZero.Nat

namespace BrokerRouting

/-!
# What sinks take and what is read from them

Between two states of a sink lie the messages that it took and those that
were read.  While it is open they make up its queue, once it is closed there
are none.  The sinks of a broker accept in total what each of them takes.
-/

namespace TextMap

variable {Value : Type}

/-- The contents of a map are those of one text and those of all others. -/
theorem contents_perm
    {map : TextMap Value}
    {name : String}
    {value : Value}
    (found : map[name]? = some value) :
    (contents map).Perm (value :: contents (map.erase name)) := by
  have entries :
      map.toList.Perm ((name, value) :: (map.erase name).toList) := by
    have absent : (name, value) ∉ (map.erase name).toList := by
      simp [Std.ExtTreeMap.mem_toList_iff_getElem?_eq_some]
    apply (List.perm_ext_iff_of_nodup (nodup_toList map)
      (List.nodup_cons.mpr ⟨absent, nodup_toList _⟩)).mpr
    rintro ⟨other, held⟩
    simp only [List.mem_cons, Std.ExtTreeMap.mem_toList_iff_getElem?_eq_some,
      Std.ExtTreeMap.getElem?_erase, Std.compare_eq_iff_eq, Prod.mk.injEq]
    by_cases same : name = other
    · subst same
      simp [found, eq_comm]
    · simp [same, Ne.symm same]
  simpa [contents] using entries.map Prod.snd

end TextMap

namespace Sink

/--
How a sink got from one state to another, by the messages that it took and
those that were read meanwhile, and whether it was asked to close.
-/
structure Follows
    (before : Sink)
    (taken drained : List Message)
    (closing : Bool)
    (after : Sink) : Prop where
  isOpen : after.isOpen = (before.isOpen && !closing)
  accepted : after.accepted = before.accepted + taken.length
  /-- While the sink is open nothing is lost and nothing overtakes. -/
  queue :
    after.isOpen = true →
      drained ++ after.waiting = before.waiting ++ taken
  refusing : before.isOpen = false → taken = []

namespace Follows

theorem refl (sink : Sink) : sink.Follows [] [] false sink where
  isOpen := by simp
  accepted := rfl
  queue _ := by simp
  refusing _ := rfl

theorem trans
    {first second third : Sink}
    {taken drained takenNext drainedNext : List Message}
    {closing closingNext : Bool}
    (earlier : first.Follows taken drained closing second)
    (later : second.Follows takenNext drainedNext closingNext third) :
    first.Follows (taken ++ takenNext) (drained ++ drainedNext)
      (closing || closingNext) third where
  isOpen := by
    rw [later.isOpen, earlier.isOpen, Bool.not_or, Bool.and_assoc]
  accepted := by
    rw [later.accepted, earlier.accepted, List.length_append, Nat.add_assoc]
  queue isOpen := by
    have openBetween : second.isOpen = true := by
      have stillOpen := later.isOpen
      simp_all
    calc
      (drained ++ drainedNext) ++ third.waiting =
          drained ++ (second.waiting ++ takenNext) := by
        rw [List.append_assoc, later.queue isOpen]
      _ = first.waiting ++ (taken ++ takenNext) := by
        rw [← List.append_assoc, earlier.queue openBetween,
          List.append_assoc]
  refusing closed := by
    have closedBetween : second.isOpen = false := by
      rw [earlier.isOpen, closed, Bool.false_and]
    rw [earlier.refusing closed, later.refusing closedBetween,
      List.append_nil]

/-- Copies that are offered are taken in order, or refused. -/
theorem offered
    (sink : Sink)
    (message : Message)
    (copies : Nat) :
    sink.Follows
      (if sink.isOpen then List.replicate copies message else []) []
      false (sink.offered message copies) where
  isOpen := by simp
  accepted := by
    cases isOpen : sink.isOpen <;> simp [Sink.offered, isOpen]
  queue isOpen := by
    rw [isOpen_offered] at isOpen
    simp [Sink.offered, isOpen]
  refusing closed := by simp [closed]

/-- What is read had waited. -/
theorem drain (sink : Sink) :
    sink.Follows [] (sink.drain.1.getD []) false sink.drain.2 where
  isOpen := by
    cases isOpen : sink.isOpen <;> simp [Sink.drain, isOpen]
  accepted := by
    cases isOpen : sink.isOpen <;> simp [Sink.drain, isOpen]
  queue _ := by
    cases isOpen : sink.isOpen <;> simp_all [Sink.drain]
  refusing _ := rfl

theorem close (sink : Sink) :
    sink.Follows [] [] true sink.close.2 where
  isOpen := by simp [Sink.close]
  accepted := rfl
  queue isOpen := by simp [Sink.close] at isOpen
  refusing _ := rfl

end Follows

end Sink

namespace Sinks

theorem get_insert
    (sinks : Sinks)
    (name other : String)
    (sink : Sink) :
    Sinks.get (sinks.insert name sink) other =
      if name = other then sink else sinks.get other := by
  simp [get, Std.ExtTreeMap.getD_insert]

/-- The number of messages that all sinks together ever accepted. -/
def total (sinks : Sinks) : Nat :=
  (sinks.contents.map Sink.accepted).sum

/-- What one sink accepted can be told apart from the rest. -/
theorem total_eq
    (sinks : Sinks)
    (name : String) :
    sinks.total = (sinks.get name).accepted + total (sinks.erase name) := by
  cases found : sinks[name]? with
  | none =>
      rw [TextMap.erase_of_absent found]
      simp [get, Std.ExtTreeMap.getD_eq_getD_getElem?, found]
  | some sink =>
      have contents := (TextMap.contents_perm found).map Sink.accepted
      rw [total, contents.sum_nat]
      simp [get, total, Std.ExtTreeMap.getD_eq_getD_getElem?, found]

/-- Of all sinks only the one that changes makes a difference. -/
theorem total_insert
    (sinks : Sinks)
    (name : String)
    (sink : Sink) :
    total (sinks.insert name sink) + (sinks.get name).accepted =
      sinks.total + sink.accepted := by
  have sameRest : (sinks.insert name sink).erase name = sinks.erase name := by
    apply Std.ExtTreeMap.ext_getElem?
    intro other
    simp only [Std.ExtTreeMap.getElem?_erase, Std.ExtTreeMap.getElem?_insert]
    split <;> rfl
  rw [total_eq (sinks.insert name sink) name, total_eq sinks name, sameRest,
    get_insert, if_pos rfl]
  omega

/-- A total changes with a sink by what the sink takes. -/
theorem total_of_follows
    {sinks : Sinks}
    {name : String}
    {sink : Sink}
    {taken drained : List Message}
    {closing : Bool}
    (follows : (sinks.get name).Follows taken drained closing sink) :
    total (sinks.insert name sink) = sinks.total + taken.length := by
  have changed := sinks.total_insert name sink
  rw [follows.accepted] at changed
  omega

variable {message : Message}

/-- The sinks are offered the message in the order of their names. -/
theorem handOffs_eq
    (sinks : Sinks)
    (names : List String) :
    sinks.handOffs message names =
      names.map fun name => ⟨name, message, (sinks.get name).isOpen⟩ := by
  induction names generalizing sinks with
  | nil =>
      rfl
  | cons name rest inductionHypothesis =>
      simp only [handOffs, inductionHypothesis, deliver_fst,
        isOpen_get_deliver, List.map_cons]

theorem takenBy_handOffs
    (sinks : Sinks)
    (names : List String)
    (name : String) :
    HandOff.takenBy name (sinks.handOffs message names) =
      if (sinks.get name).isOpen then
        List.replicate (names.count name) message
      else [] := by
  rw [handOffs_eq, HandOff.takenBy]
  induction names with
  | nil =>
      simp
  | cons first rest inductionHypothesis =>
      rw [List.map_cons, List.filter_cons, List.count_cons]
      by_cases same : first = name
      · subst same
        cases isOpen : (sinks.get first).isOpen with
        | true =>
            simp only [isOpen, ↓reduceIte] at inductionHypothesis
            simp [inductionHypothesis, List.replicate_succ]
        | false =>
            simp only [isOpen] at inductionHypothesis
            simpa [isOpen] using inductionHypothesis
      · simpa [same] using inductionHypothesis

/-- Each sink takes its copies of a message that is handed over. -/
theorem follows_handOver
    (sinks : Sinks)
    (names : List String)
    (name : String) :
    (sinks.get name).Follows
      (HandOff.takenBy name (sinks.handOffs message names)) [] false
      ((sinks.handOver message names).sinks.get name) := by
  rw [get_handOver, takenBy_handOffs]
  exact .offered (sinks.get name) message (names.count name)

theorem total_deliver
    (sinks : Sinks)
    (name : String) :
    (sinks.deliver name message).2.total =
      sinks.total + if (sinks.get name).isOpen then 1 else 0 := by
  have follows := Sink.Follows.offered (sinks.get name) message 1
  rw [deliver, Sink.deliver_eq, total_of_follows follows]
  cases (sinks.get name).isOpen <;> rfl

theorem total_handOver
    (sinks : Sinks)
    (names : List String) :
    (sinks.handOver message names).sinks.total =
      sinks.total + (sinks.handOver message names).accepted := by
  induction names generalizing sinks with
  | nil =>
      rfl
  | cons name rest inductionHypothesis =>
      have handedLater := inductionHypothesis (sinks.deliver name message).2
      rw [total_deliver] at handedLater
      rw [handOver_cons]
      cases isOpen : (sinks.get name).isOpen <;>
        simp only [isOpen, Bool.false_eq_true, ↓reduceIte] at handedLater ⊢ <;>
        omega

theorem accepted_handOver
    (sinks : Sinks)
    (names : List String) :
    (sinks.handOver message names).accepted =
      (sinks.handOffs message names).countP HandOff.taken := by
  rw [(handOver_counts sinks names).1, handOffs_eq, List.countP_map]
  rfl

/-- What is not taken is refused, and counted as such. -/
theorem refused_handOver
    (sinks : Sinks)
    (names : List String) :
    (sinks.handOver message names).refused =
      (sinks.handOffs message names).countP fun handOff =>
        !handOff.taken := by
  rw [(handOver_counts sinks names).2, handOffs_eq, List.countP_map]
  rfl

theorem accepted_add_refused
    (sinks : Sinks)
    (names : List String) :
    (sinks.handOver message names).accepted +
        (sinks.handOver message names).refused =
      names.length := by
  rw [(handOver_counts sinks names).1, (handOver_counts sinks names).2]
  simpa using (List.length_eq_countP_add_countP
    (fun name => (sinks.get name).isOpen)).symm

end Sinks

end BrokerRouting
