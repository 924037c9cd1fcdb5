import Switchyard.Proofs.Socket.Life
import Switchyard.Socket.Connection

/-!
# Connections live the life of their endpoint

Whatever a peer does, what an endpoint goes through on a connection is a life: it is opened, it reads messages
up to the end or a fault while its writer takes steps, and it ends at most once.

Main result: `lived_of_reached`; so what `lives_live` says of lives holds on every connection that has ended.
-/

namespace Switchyard

variable {S : Type}

/-- A connection that a peer can bring about. -/
inductive Reached (endpoint : Endpoint S) (limit : Nat) (session : Session) (world : World S) : Connection S → Prop
  | start : Reached endpoint limit session world (.start endpoint limit session world)
  | perform {c : Connection S} {act : Connection.Act} : Reached endpoint limit session world c →
      Reached endpoint limit session world (c.perform act).2

/-- A connection has come from a life that started with `l`: it reads, or its life is over and at most its writer
has taken steps since. -/
inductive Lived (e : Endpoint S) (l : Life S) (c : Connection S) : Prop
  | reading (happenings : List Happening) : c.endpoint = e → c.isOver = false → faultRead happenings = none →
      c.life = e.read happenings (e.opened l) → Lived e l c
  | finished (happenings : List Happening) (steps : List Bool) : c.endpoint = e → c.isOver = true →
      c.life = steps.foldl Life.wrote (e.live happenings l) → Lived e l c

/-- Reading goes on behind what was read without a fault. -/
theorem read_append (e : Endpoint S) : ∀ (happenings more : List Happening) (l : Life S),
    faultRead happenings = none → e.read (happenings ++ more) l = e.read more (e.read happenings l)
  | [], _, _, _ => rfl
  | .message m :: rest, more, l, h => read_append e rest more (e.arrived m l) h
  | .fault _ :: _, _, _, h => by cases h
  | .writing written :: rest, more, l, h => read_append e rest more (l.wrote written) h

theorem faultRead_append : ∀ (happenings more : List Happening), faultRead happenings = none →
    faultRead (happenings ++ more) = faultRead more
  | [], _, _ => rfl
  | .message _ :: rest, more, h => faultRead_append rest more h
  | .fault _ :: _, _, h => by cases h
  | .writing _ :: rest, more, h => faultRead_append rest more h

namespace Lived

variable {e : Endpoint S} {l : Life S} {c c' : Connection S}

theorem congr (h : Lived e l c) (hendpoint : c'.endpoint = c.endpoint) (hover : c'.isOver = c.isOver)
    (hlife : c'.life = c.life) : Lived e l c' := by
  cases h with
  | reading happenings he hopen hfault heq =>
    exact .reading happenings (hendpoint.trans he) (hover.trans hopen) hfault (hlife.trans heq)
  | finished happenings steps he hclosed heq =>
    exact .finished happenings steps (hendpoint.trans he) (hover.trans hclosed) (hlife.trans heq)

/-- Something happens to a connection that reads. -/
theorem happen (h : Lived e l c) (hopen : c.isOver = false) (happening : Happening)
    (hfault : faultRead [happening] = none) (hendpoint : c'.endpoint = c.endpoint) (hover : c'.isOver = false)
    (hlife : c'.life = c.endpoint.read [happening] c.life) : Lived e l c' := by
  cases h with
  | finished _ _ _ hclosed _ => rw [hopen] at hclosed; cases hclosed
  | reading happenings he _ hnone heq =>
    refine .reading (happenings ++ [happening]) (hendpoint.trans he) hover ?_ ?_
    · rw [faultRead_append _ _ hnone, hfault]
    · rw [hlife, he, heq, read_append e _ _ _ hnone]

theorem hand (h : Lived e l c) (hopen : c.isOver = false) (m : Message) : Lived e l (c.hand m) :=
  h.happen hopen (.message m) rfl rfl hopen rfl

theorem finish (h : Lived e l c) (hopen : c.isOver = false) : Lived e l c.finish := by
  cases h with
  | finished _ _ _ hclosed _ => rw [hopen] at hclosed; cases hclosed
  | reading happenings he _ _ heq =>
    refine .finished happenings [] he rfl ?_
    rw [Connection.finish, he, heq]
    rfl

theorem breakOff (h : Lived e l c) (hopen : c.isOver = false) (fault : TransportFault) :
    Lived e l (c.breakOff fault) := by
  cases h with
  | finished _ _ _ hclosed _ => rw [hopen] at hclosed; cases hclosed
  | reading happenings he _ hnone heq =>
    refine .finished (happenings ++ [.fault fault]) [] he rfl ?_
    rw [Connection.breakOff, Connection.finish, List.foldl_nil, Endpoint.live, read_append e _ _ _ hnone, ← heq, he]
    rfl

theorem done (h : Lived e l c) : Lived e l { c with closing := .done } := h.congr rfl rfl rfl

theorem arrive (h : Lived e l c) (data : Bytes) : Lived e l { c with pending := c.pending ++ data } :=
  h.congr rfl rfl rfl

theorem deliver (h : Lived e l c) (m : Message) : Lived e l (c.deliver m) := h.congr rfl rfl rfl

theorem take (h : Lived e l c) (hopen : c.isOver = false) (m : Message) : Lived e l (c.take m) := by
  unfold Connection.take
  split
  · exact (h.deliver _).hand hopen _
  · exact ((h.deliver _).hand hopen _).done.finish hopen
  · exact (h.hand hopen _).done.finish hopen
  · exact h.hand hopen _

/-- Reading what has arrived goes on with the life. -/
theorem readAll : ∀ (fuel : Nat) {c : Connection S}, Lived e l c → Lived e l (c.readAll fuel)
  | 0, _, h => h
  | fuel + 1, c, h => by
    rw [Connection.readAll]
    split
    · exact h
    · rename_i hopen
      rw [Bool.not_eq_true] at hopen
      split
      · exact h
      · exact h.breakOff hopen _
      · rename_i rest _
        split
        · have hread : Lived e l { c with pending := rest } := h.congr rfl rfl rfl
          exact hread.breakOff hopen _
        · rename_i message assembly _
          have hread : Lived e l { c with pending := rest, assembly } := h.congr rfl rfl rfl
          cases message with
          | none => exact readAll fuel hread
          | some m => exact readAll fuel (hread.take hopen m)

theorem write (h : Lived e l c) : Lived e l c.write := by
  have hwrote : Lived e l { c with life := c.life.wrote (c.closing = .none) } := by
    cases hover : c.isOver with
    | false => exact h.happen hover (.writing (c.closing = .none)) rfl rfl rfl rfl
    | true =>
      cases h with
      | reading _ _ hopen _ _ => rw [hover] at hopen; cases hopen
      | finished happenings steps he _ heq =>
        refine .finished happenings (steps ++ [decide (c.closing = .none)]) he rfl ?_
        rw [List.foldl_append, ← heq]
        rfl
  unfold Connection.write
  simp only
  split
  · exact hwrote.congr rfl rfl rfl
  · exact hwrote.congr rfl rfl rfl
  · exact hwrote

theorem writeAll : ∀ (fuel : Nat) {c : Connection S}, Lived e l c → Lived e l (c.writeAll fuel)
  | 0, _, h => h
  | fuel + 1, _, h => writeAll fuel h.write

theorem round (h : Lived e l c) : Lived e l c.round := (h.readAll _).writeAll _

theorem settle (h : Lived e l c) : Lived e l c.settle := by
  unfold Connection.settle
  simp only
  split
  · exact h.round.round.congr rfl rfl rfl
  · exact h.round.round

/-- Whatever a peer does goes on with the life. -/
theorem perform (h : Lived e l c) (act : Connection.Act) : Lived e l (c.perform act).2 := by
  unfold Connection.perform
  split
  · exact h
  · rename_i hopen
    rw [Bool.not_eq_true] at hopen
    cases act with
    | send f => exact (h.arrive f.write).settle
    | raw data => exact (h.arrive data).settle
    | abort => exact ((h.done.breakOff hopen .reset).round).congr rfl rfl rfl

end Lived

/-- **Every connection lives the life of its endpoint.** -/
theorem lived_of_reached {endpoint : Endpoint S} {limit : Nat} {session : Session} {world : World S}
    {c : Connection S} (h : Reached endpoint limit session world c) : Lived endpoint { session, world } c := by
  induction h with
  | start =>
    have hopened : Lived endpoint { session, world }
        { endpoint, limit, life := endpoint.opened { session, world } : Connection S } := .reading [] rfl rfl rfl rfl
    exact hopened.settle
  | perform _ ih => exact ih.perform _

end Switchyard
