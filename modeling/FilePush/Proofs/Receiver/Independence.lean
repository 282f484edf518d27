import FilePush.Proofs.Sampling.Receiving

/-!
# Storing without regard to the answer

The answer comes last.  Whether the connection takes it, takes a part of it, or fails when it is
flushed or shut down makes no difference to how a transfer ends, to the files, or to what was read;
and what is to be answered does not depend on it either, so connections that take more or less of an
answer take more or less of the same one.
-/

namespace FilePush

namespace Receiver

open FileTree (SameFolders)

theorem Answered.nothing (outbound : Outbound) : Answered outbound outbound [] :=
  ⟨[], List.nil_prefix, (List.append_nil _).symm, fun _ => rfl⟩

/-- The bytes with which a connection is answered, if at all. -/
def Effect.answer (effect : Effect) : Bytes := (effect.reply.map Ack.toBytes).getD []

/-- A connection is answered as the effect of serving it says. -/
theorem Effect.Left.answered {effect : Effect} {connection : Connection} {tree : FileTree}
    {served : Served} (left : effect.Left connection tree served) :
    Answered connection.outbound served.connection.outbound effect.answer := by
  rw [left.outbound, Effect.answer]
  cases effect.reply with
  | none => exact .nothing connection.outbound
  | some ack => exact answered_sendAck connection.outbound ack

theorem Effect.answer_cases (effect : Effect) :
    effect.answer = [] ∨ effect.answer = Utf8.encode "all right" ++ [0] ∨
      effect.answer = Utf8.encode "all bad" ++ [0] := by
  rw [Effect.answer]
  rcases effect.reply with _ | _ | _
  · exact .inl rfl
  · exact .inr (.inl rfl)
  · exact .inr (.inr rfl)

/--
What happens to the answer of a connection influences nothing that is stored.  However two sending
sides take bytes, flush and shut down, the transfer ends with the same outcome and leaves the same
files and the same bytes unread; and each of them takes a beginning of one and the same answer, all
of it unless a write fails.  The clocks may differ as well.
-/
theorem serve_ignores_outbound (config : Config) (directory : Location) (sequence : Nat)
    (inbound : Inbound) (left right : Outbound) (tree : FileTree) (clock late : Clock) :
    let one := serve config directory sequence ⟨inbound, left⟩ tree clock
    let two := serve config directory sequence ⟨inbound, right⟩ tree late
    one.outcome = two.outcome ∧ one.tree = two.tree ∧
      one.connection.inbound = two.connection.inbound ∧
      ∃ answer, (answer = [] ∨ answer = Utf8.encode "all right" ++ [0] ∨
          answer = Utf8.encode "all bad" ++ [0]) ∧
        Answered left one.connection.outbound answer ∧
        Answered right two.connection.outbound answer := by
  intro one two
  have matching : Matching directory sequence config config ⟨inbound, left⟩ ⟨inbound, right⟩ tree
      tree := ⟨rfl, rfl, rfl, rfl, SameFolders.refl tree, rfl⟩
  have same := matching.serve_sameButTimes clock late
  obtain ⟨effect, on_one, on_two, -⟩ := matching.exists_effect clock late
  exact ⟨same.outcome, same.tree, same.inbound, effect.answer, effect.answer_cases,
    on_one.answered, on_two.answered⟩

end Receiver

end FilePush
