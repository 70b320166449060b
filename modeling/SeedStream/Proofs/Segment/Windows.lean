import SeedStream.Proofs.Segment.Decision
import SeedStream.Proofs.Segment.Grid

/-!
# Windows of one function

Segments that show one function on one grid agree wherever two of them have a sample. A
merge of two is again a window of the function, from the first start to the last end. So
is what comes of any number of merges one after the other, in whatever order, as long as
none is refused. Divisors need not agree: on a grid no tolerance up to half an interval
bridges a gap.
-/

set_option autoImplicit false

namespace SeedStream.Segment

/-- The samples of a segment are the values of `f` at its instants, which lie on the grid
of all instants a multiple of `i` from `o`. -/
structure Shows (f : Int → Int32) (i o : Int) (s : Segment) : Prop where
  interval : s.interval = i
  grid : i ∣ s.start - o
  values : ∀ (k : Nat) (v : Int32), s.samples[k]? = some v → v = f (s.start + i * k)

/-- A segment that can be made, with a tolerance of at most half an interval, that shows
the function. -/
structure Piece (f : Int → Int32) (i o : Int) (s : Segment) : Prop where
  reachable : s.Reachable
  divisor : 2 ≤ s.jitterDivisor
  shows : s.Shows f i o

variable {f : Int → Int32} {i o a b : Int} {m : Arithmetic}
  {s t earlier later target final : Segment}
  {rest segments : List Segment}

theorem Piece.regular (h : s.Piece f i o) : s.Regular i s.jitterDivisor :=
  ⟨h.reachable.sound, h.shows.interval, rfl⟩

theorem Piece.pos (h : s.Piece f i o) : 0 < i := h.shows.interval ▸ h.reachable.proper.1

theorem Piece.holds (h : s.Piece f i o) {x : Int} {v : Int32} (hx : s.Holds x v) : v = f x := by
  obtain ⟨k, hk, rfl⟩ := h.regular.holds_iff.1 hx
  exact h.shows.values k v hk

theorem Piece.joined (he : earlier.Piece f i o) (hl : later.Piece f i o)
    (h : Joined earlier later target) (hr : target.Reachable)
    (hgap : later.start - earlier.stop ≤ earlier.tolerance) :
    target.Piece f i o ∧ target.stop = max earlier.stop later.stop := by
  rw [he.regular.tolerance_eq] at hgap
  have hregular := h.regular he.regular
  have hdivisor : 2 ≤ target.jitterDivisor := h.head.jitterDivisor ▸ he.divisor
  refine ⟨⟨hr, hdivisor, hregular.interval, h.head.start ▸ he.shows.grid, ?_⟩, ?_⟩
  · intro k v hk
    have hx : target.Holds (target.start + i * k) v := hregular.holds_iff.2 ⟨k, hk, rfl⟩
    rcases h.drawn_exactly he.pos he.divisor he.regular hl.regular hgap he.shows.grid
      hl.shows.grid hx with hx | hx
    · exact he.holds hx
    · exact hl.holds hx
  · exact h.stop_eq he.pos he.divisor he.regular hl.regular hgap he.shows.grid hl.shows.grid

theorem Piece.merged (hs : s.Piece f i o) (ht : t.Piece f i o)
    (hm : s.mergeInto t = .merged target) :
    target.Piece f i o ∧ target.start = min t.start s.start ∧
    target.stop = max t.stop s.stop := by
  have hr : target.Reachable := .merged hs.reachable ht.reachable hm
  cases hm ▸ mergeInto_decision hs.reachable ht.reachable with
  | merged hi h hlead hj =>
    rcases Int.lt_or_le s.start t.start with hlt | hle
    · rw [leading_of_lt hlt, trailing_of_lt hlt] at hj
      rw [leading_of_lt hlt, gap_of_lt hlt] at hlead
      obtain ⟨hpiece, hstop⟩ := hs.joined ht hj hr hlead
      exact ⟨hpiece, by rw [hj.head.start, min_eq_right (Int.le_of_lt hlt)], by
        rw [hstop, max_comm]⟩
    · rw [leading_of_le hle, trailing_of_le hle] at hj
      rw [leading_of_le hle, gap_of_le hle] at hlead
      obtain ⟨hpiece, hstop⟩ := ht.joined hs hj hr hlead
      exact ⟨hpiece, by rw [hj.head.start, min_eq_left hle], hstop⟩

theorem Piece.samples_eq (hs : s.Piece f i o) (ht : t.Piece f i o) (hstart : t.start = s.start)
    (hstop : t.stop = s.stop) : t.samples = s.samples := by
  rw [hs.regular.stop_eq, ht.regular.stop_eq, hstart] at hstop
  have hlength : t.length = s.length := by
    have hmul : i * (t.length : Int) = i * s.length := by omega
    exact Int.ofNat.inj (Int.eq_of_mul_eq_mul_left (Int.ne_of_gt hs.pos) hmul)
  apply List.ext_getElem
  · rw [hs.regular.sound.length_samples, ht.regular.sound.length_samples, hlength]
  · intro k hk hk'
    rw [hs.shows.values k _ (List.getElem?_eq_getElem hk'),
      ht.shows.values k _ (List.getElem?_eq_getElem hk), hstart]

end SeedStream.Segment
