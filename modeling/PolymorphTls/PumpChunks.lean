/-
The receive direction of the pump on a correct peer's stream: which cuts of the
ciphertext it survives.

rustls takes input in pieces of its own choosing and stops taking any while more than
16384 bytes of plaintext are unread. The reader feeds one transport read piece by piece
and reads plaintext only when the whole of it has been taken. So a valid stream fails
as soon as one transport read brings in records with more than 16384 bytes of plaintext
and rustls still has to be offered a further piece of that read.

[`Fits`] says that this does not happen, in terms of the record boundaries, the cuts and
the deframer's partial reads; [`reader_accepts_iff_fits`] says that the reader then delivers
the peer's data and ends with `Ok`, and otherwise does not.
-/
import PolymorphTls.NullTls
import PolymorphTls.Pump

set_option autoImplicit false

namespace PolymorphTls.PumpChunks

open Pump

/-! ## The reader with a consumer that keeps reading -/

/-- `reader_task` over the results of its reads, when every write to `cleartext_out` is
taken: what it delivers, and its verdict once the loop ends. -/
def reader_task {C : Type} (R : Rustls C) :
    Handshake → C → Bool → List UInt8 → List (StreamResult × List UInt8) →
      List UInt8 × Option Verdict
  | _, _, _, out, [] => (out, none)
  | h, c, clean_close, out, (status, buf) :: reads =>
      if buf = [] then
        match reader_status h clean_close status with
        | (some verdict, _) => (out, some verdict)
        | (none, h) => reader_task R h c clean_close out reads
      else
        let p := reader_pass R h c clean_close buf
        match reader_decide p.handshake p.failed p.clean_close status with
        | (some verdict, _) => (out ++ p.plaintext, some verdict)
        | (none, h) => reader_task R h p.conn p.clean_close (out ++ p.plaintext) reads

/-- The schedule of the system in which the reader gets these reads, one after the other,
and the consumer takes what it writes. -/
def readerSchedule {C : Type} (R : Rustls C) :
    Handshake → C → Bool → List (StreamResult × List UInt8) → List Act
  | _, _, _, [] => []
  | h, c, clean_close, (status, buf) :: reads =>
      if buf = [] then
        .transport status buf ::
          match reader_status h clean_close status with
          | (some _, _) => []
          | (none, h) => readerSchedule R h c clean_close reads
      else
        let p := reader_pass R h c clean_close buf
        let rest := match reader_decide p.handshake p.failed p.clean_close status with
          | (some _, _) => []
          | (none, h) => readerSchedule R h p.conn p.clean_close reads
        if p.plaintext = [] then .transport status buf :: rest
        else .transport status buf :: .consume p.plaintext.length :: .written :: rest

/-- The reader's decision, in the system and in `reader_task`. -/
theorem run_readerNext {C : Type} {R : Rustls C} {s : Sys C} {next : Option Verdict × Handshake}
    {out : List UInt8} {reads : List (StreamResult × List UInt8)} (hout : s.cleartext_out = out)
    (ih : ∀ s' : Sys C, s'.reader = .reading → ∃ s'',
      Lts.run (step R) s' (readerSchedule R s'.handshake s'.conn s'.clean_close reads) = some s''
      ∧ s''.cleartext_out
        = (reader_task R s'.handshake s'.conn s'.clean_close s'.cleartext_out reads).1
      ∧ s''.recv_done = s'.recv_done
        ++ (reader_task R s'.handshake s'.conn s'.clean_close s'.cleartext_out reads).2.toList) :
    ∃ s', Lts.run (step R) (s.readerNext next)
        (match next with
          | (some _, _) => []
          | (none, h) => readerSchedule R h s.conn s.clean_close reads) = some s'
      ∧ s'.cleartext_out
        = (match next with
          | (some verdict, _) => (out, some verdict)
          | (none, h) => reader_task R h s.conn s.clean_close out reads).1
      ∧ s'.recv_done = s.recv_done
        ++ (match next with
          | (some verdict, _) => (out, some verdict)
          | (none, h) => reader_task R h s.conn s.clean_close out reads).2.toList := by
  subst hout
  obtain ⟨verdict, h⟩ := next
  cases verdict with
  | some verdict => exact ⟨_, rfl, rfl, rfl⟩
  | none => exact ih { s with handshake := h, reader := .reading } rfl

/-- **`reader_task` is the reader of the system**, run on its own with a consumer that
keeps reading. -/
theorem run_readerSchedule {C : Type} (R : Rustls C)
    (reads : List (StreamResult × List UInt8)) (hlen : ∀ r ∈ reads, r.2.length ≤ CHUNK)
    (s : Sys C) (hpc : s.reader = .reading) :
    ∃ s', Lts.run (step R) s (readerSchedule R s.handshake s.conn s.clean_close reads) = some s'
      ∧ s'.cleartext_out
        = (reader_task R s.handshake s.conn s.clean_close s.cleartext_out reads).1
      ∧ s'.recv_done = s.recv_done
        ++ (reader_task R s.handshake s.conn s.clean_close s.cleartext_out reads).2.toList := by
  induction reads generalizing s with
  | nil => exact ⟨s, rfl, rfl, (List.append_nil _).symm⟩
  | cons r reads ih =>
      obtain ⟨status, buf⟩ := r
      have hbuf : buf.length ≤ CHUNK := hlen _ List.mem_cons_self
      have hnext := ih fun r hr => hlen r (List.mem_cons_of_mem _ hr)
      -- one read takes one step of the system, or three when it has plaintext to write
      by_cases hempty : buf = []
      · rw [readerSchedule, reader_task, if_pos hempty, if_pos hempty]
        have hstep : step R s (.transport status buf)
            = some (s.readerNext (reader_status s.handshake s.clean_close status)) := by
          rw [step, if_pos ⟨hpc, hbuf⟩, if_pos hempty]
        rw [Lts.run_cons_of_step _ hstep]
        exact run_readerNext rfl hnext
      · rw [readerSchedule, reader_task, if_neg hempty, if_neg hempty]
        have hstep : step R s (.transport status buf) = some (s.readerPassed
            (reader_pass R s.handshake s.conn s.clean_close buf) status) := by
          rw [step, if_pos ⟨hpc, hbuf⟩, if_neg hempty]
        dsimp only
        generalize reader_pass R s.handshake s.conn s.clean_close buf = p at hstep ⊢
        by_cases hplain : p.plaintext = []
        · rw [if_pos hplain, Lts.run_cons_of_step _ hstep, Sys.readerPassed, if_pos hplain]
          exact run_readerNext (s := { s with
            conn := p.conn
            handshake := p.handshake
            clean_close := p.clean_close
            queue := s.queue ++ p.sent }) (by simp [hplain]) hnext
        · rw [if_neg hplain, Lts.run_cons_of_step _ hstep, Sys.readerPassed, if_neg hplain,
            Lts.run_cons_of_step _ rfl, Lts.run_cons_of_step _ (by
              simp only [step, List.drop_length]
              rfl)]
          exact run_readerNext (s := { s with
            conn := p.conn
            handshake := p.handshake
            clean_close := p.clean_close
            queue := s.queue ++ p.sent
            cleartext_out := s.cleartext_out ++ p.plaintext.take p.plaintext.length
            reader := .writing [] p.failed status }) (by simp) hnext

/-! ## Where rustls is offered input -/

section Looks

variable {D : Type} (F : Deframer D)

/-- The positions at which `read_tls` is called while `len` bytes are fed from position `p`
on. They are where the limit on unread plaintext is looked at, and only there: a read whose
last piece was taken is past danger. -/
def looks : ℕ → D → ℕ → ℕ → List ℕ
  | 0, _, _, _ => []
  | n + 1, d, p, len =>
      if len = 0 then []
      else
        p :: looks n (F.take d (min len (F.room d))) (p + min len (F.room d))
          (len - min len (F.room d))

/-- The deframer after `len` bytes were fed. -/
def fed : ℕ → D → ℕ → D
  | 0, d, _ => d
  | n + 1, d, len =>
      if len = 0 then d
      else fed n (F.take d (min len (F.room d))) (len - min len (F.room d))

/-- The plaintext completed from position `a` to position `q`. The reader empties rustls
between two reads, so this is what lies unread in it within one. -/
def released (records : List Record) (a q : ℕ) : ℕ :=
  (plainUpTo records q).length - (plainUpTo records a).length

/-- No transport read brings in more plaintext than rustls keeps unread while it still has
to be offered a piece of that read. It is a condition on the peer's records and the cut
alone. -/
def Fits (records : List Record) : D → ℕ → List ℕ → Prop
  | _, _, [] => True
  | d, p, len :: lens =>
      (∀ q ∈ looks F len d p len, released records p q ≤ Rustls.RECEIVED_PLAINTEXT_LIMIT) ∧
        Fits records (fed F len d len) (p + len) lens

end Looks

/-- A way the transport cuts the stream into reads. The last one may come with the end of
the transport. -/
structure Cut (stream : PeerStream) (reads : List (StreamResult × List UInt8)) : Prop where
  bytes : (reads.map Prod.snd).flatten = stream.wire
  sizes : ∀ r ∈ reads, 1 ≤ r.2.length ∧ r.2.length ≤ CHUNK
  statuses : ∀ r ∈ reads.dropLast, r.1 = .Complete

/-- The rest of a cursor is a cursor at the later position. -/
theorem cursor_drop {wire cursor : List UInt8} {p k : ℕ} (h : cursor <+: wire.drop p)
    (hk : k ≤ cursor.length) : cursor.drop k <+: wire.drop (p + k) := by
  obtain ⟨rest, hrest⟩ := h
  exact ⟨rest, by rw [← List.drop_drop, ← hrest, List.drop_append_of_le_length hk]⟩

/-! ## One transport read -/

section Accepts

variable {C D : Type} {R : Rustls C} {F : Deframer D} {stream : PeerStream}
  {At : C → ℕ → List UInt8 → D → Prop} (hR : R.Accepts F stream At)
include hR

/-- Draining does not touch the receive side, so it stays at its position. -/
theorem drain_at {c : C} {p : ℕ} {unread : List UInt8} {d : D} (hat : At c p unread d) :
    At (drain_tls_writes R c).2 p unread d :=
  drain_keeps (P := fun c => At c p unread d) (fun _ => hR.write_tls_keeps) hat

/-- The plaintext loop takes all of what is unread, and finds the end only at the end. -/
theorem readLoop_at (n : ℕ) {c : C} {p : ℕ} {unread : List UInt8} {d : D}
    (hat : At c p unread d) (hn : unread.length < n) :
    (readLoop R n c).1 = (unread, decide (p = stream.wire.length)) ∧
    At (readLoop R n c).2 p [] d := by
  induction n generalizing c unread with
  | zero => omega
  | succ n ih =>
      cases unread with
      | nil =>
          obtain ⟨hres, hat'⟩ := hR.read_none CHUNK hat (by decide)
          by_cases hend : p = stream.wire.length
          · rw [if_pos hend] at hres
            have heq : R.read c CHUNK = (.ok [], (R.read c CHUNK).2) := by rw [← hres]
            rw [readLoop, heq]
            exact ⟨by simp [hend], hat'⟩
          · rw [if_neg hend] at hres
            have heq : R.read c CHUNK = (.error .WouldBlock, (R.read c CHUNK).2) := by
              rw [← hres]
            rw [readLoop, heq]
            exact ⟨by simp [hend], hat'⟩
      | cons b bs =>
          obtain ⟨bytes, rest, hne, hsplit, hok, hat'⟩ :=
            hR.read_some CHUNK hat (by simp) (by decide)
          have heq : R.read c CHUNK = (.ok bytes, (R.read c CHUNK).2) := by rw [← hok]
          have hlen : rest.length < n := by
            have hpos := List.length_pos_iff.mpr hne
            rw [hsplit, List.length_append] at hn
            omega
          obtain ⟨hres, hat''⟩ := ih hat' hlen
          obtain ⟨b', bs', rfl⟩ := List.exists_cons_of_ne_nil hne
          rw [readLoop, heq]
          refine ⟨?_, hat''⟩
          simp only [hres]
          rw [hsplit]

omit hR in
/-- One turn of the loop that takes `k` bytes and processes them. -/
theorem feedLoop_turn {n k : ℕ} {cursor : List UInt8} {f : Feed C} {c₁ c₂ : C} {b : Bool}
    (hne : cursor ≠ []) (hk : 1 ≤ k) (hread : R.read_tls f.conn cursor = (.ok k, c₁))
    (hproc : R.process_new_packets c₁ = (.ok b, c₂)) :
    feedLoop R (n + 1) cursor f = feedLoop R n (cursor.drop k)
      { f with
        conn := (drain_tls_writes R c₂).2
        sent := f.sent ++ (drain_tls_writes R c₂).1
        clean_close := f.clean_close || b } := by
  obtain ⟨m, rfl⟩ : ∃ m, k = m + 1 := Nat.exists_eq_succ_of_ne_zero (by omega)
  rw [feedLoop, if_neg hne, hread]
  simp only [hproc]

/-- **A read that fits is fed whole.** The invariant of the loop: what is unread is what
was completed since the read began, at position `a`. -/
theorem feedLoop_fits (n : ℕ) {f : Feed C} {a p : ℕ} {unread cursor : List UInt8} {d : D}
    (hat : At f.conn p unread d) (hn : cursor.length ≤ n)
    (hcursor : cursor <+: stream.wire.drop p)
    (hunread : plainUpTo stream.records p = plainUpTo stream.records a ++ unread)
    (hfits : ∀ q ∈ looks F n d p cursor.length,
      released stream.records a q ≤ Rustls.RECEIVED_PLAINTEXT_LIMIT) :
    ∃ unread', At (feedLoop R n cursor f).conn (p + cursor.length) unread'
        (fed F n d cursor.length) ∧
      plainUpTo stream.records (p + cursor.length)
        = plainUpTo stream.records a ++ unread' ∧
      (feedLoop R n cursor f).failure = f.failure ∧
      ((feedLoop R n cursor f).clean_close = true →
        f.clean_close = true ∨ p + cursor.length = stream.wire.length) := by
  induction n generalizing f p unread cursor d with
  | zero =>
      obtain rfl : cursor = [] := List.length_eq_zero_iff.mp (Nat.le_zero.mp hn)
      exact ⟨unread, hat, hunread, rfl, .inl⟩
  | succ n ih =>
      by_cases hne : cursor = []
      · subst hne
        exact ⟨unread, hat, hunread, rfl, .inl⟩
      · have hpos : 0 < cursor.length := List.length_pos_iff.mpr hne
        have hlen0 : ¬ cursor.length = 0 := by omega
        rw [looks, if_neg hlen0] at hfits
        -- the condition at this position is rustls's own limit
        have hroom : unread.length ≤ Rustls.RECEIVED_PLAINTEXT_LIMIT := by
          have hhere := hfits p List.mem_cons_self
          rw [released, hunread, List.length_append] at hhere
          omega
        obtain ⟨c₁, c₂, new, hread, hproc, hnew, hat'⟩ :=
          hR.read_tls_takes hat hroom cursor hne hcursor
        have hk : 1 ≤ min cursor.length (F.room d) := by
          have := hR.room_pos d
          omega
        have hk' : min cursor.length (F.room d) ≤ cursor.length := Nat.min_le_left _ _
        rw [fed, if_neg hlen0, feedLoop_turn hne hk hread hproc]
        generalize min cursor.length (F.room d) = k at hproc hnew hat' hk hk' hfits ⊢
        have hcursor' := cursor_drop hcursor hk'
        have hunread' : plainUpTo stream.records (p + k)
            = plainUpTo stream.records a ++ (unread ++ new) := by
          rw [hnew, hunread, List.append_assoc]
        have hlen : (cursor.drop k).length = cursor.length - k := List.length_drop
        have hsum : p + k + (cursor.length - k) = p + cursor.length := by omega
        obtain ⟨unread', hat'', hun'', hfail, hclean⟩ := ih
          (f := { f with
            conn := (drain_tls_writes R c₂).2
            sent := f.sent ++ (drain_tls_writes R c₂).1
            clean_close := f.clean_close || decide (p + k = stream.wire.length) })
          (drain_at hR hat') (by omega) hcursor' hunread'
          (by rw [hlen]; exact fun q hq => hfits q (List.mem_cons_of_mem _ hq))
        rw [hlen, hsum] at hat'' hun'' hclean
        refine ⟨unread', hat'', hun'', hfail, fun h => ?_⟩
        rcases hclean h with h | h
        · rcases Bool.or_eq_true_iff.mp h with h | h
          · exact .inl h
          · -- the close was complete already, so nothing was left of the cursor
            have hend := of_decide_eq_true h
            have hbound := hcursor.length_le
            rw [List.length_drop] at hbound
            exact .inr (by omega)
        · exact .inr h

/-- **A read that does not fit fails the reader.** The loop is followed to the first
position where too much is unread; there `read_tls` refuses, and the pass has its
failure. -/
theorem feedLoop_overflows (n : ℕ) {f : Feed C} {a p : ℕ} {unread cursor : List UInt8} {d : D}
    (hat : At f.conn p unread d) (hn : cursor.length ≤ n)
    (hcursor : cursor <+: stream.wire.drop p)
    (hunread : plainUpTo stream.records p = plainUpTo stream.records a ++ unread)
    (hover : ¬ ∀ q ∈ looks F n d p cursor.length,
      released stream.records a q ≤ Rustls.RECEIVED_PLAINTEXT_LIMIT) :
    (feedLoop R n cursor f).failure
      = some "transport read failed: received plaintext buffer full" := by
  induction n generalizing f p unread cursor d with
  | zero => exact absurd (by simp [looks]) hover
  | succ n ih =>
      by_cases hne : cursor = []
      · exact absurd (by simp [looks, hne]) hover
      · have hpos : 0 < cursor.length := List.length_pos_iff.mpr hne
        have hlen0 : ¬ cursor.length = 0 := by omega
        by_cases hroom : unread.length ≤ Rustls.RECEIVED_PLAINTEXT_LIMIT
        · obtain ⟨c₁, c₂, new, hread, hproc, hnew, hat'⟩ :=
            hR.read_tls_takes hat hroom cursor hne hcursor
          have hk : 1 ≤ min cursor.length (F.room d) := by
            have := hR.room_pos d
            omega
          rw [looks, if_neg hlen0, List.forall_mem_cons] at hover
          rw [feedLoop_turn hne hk hread hproc]
          have hhere : released stream.records a p ≤ Rustls.RECEIVED_PLAINTEXT_LIMIT := by
            rw [released, hunread, List.length_append]
            omega
          have hk' : min cursor.length (F.room d) ≤ cursor.length := Nat.min_le_left _ _
          generalize min cursor.length (F.room d) = k at hproc hnew hat' hk hk' hover ⊢
          have hlen : (cursor.drop k).length = cursor.length - k := List.length_drop
          refine ih (drain_at hR hat') (by omega) (cursor_drop hcursor hk') ?_ ?_
          · rw [hnew, hunread, List.append_assoc]
          · rw [hlen]
            exact fun hrest => hover ⟨hhere, hrest⟩
        · -- too much is unread: rustls takes nothing
          have hfull := hR.read_tls_full hat (by omega) cursor
          have heq : R.read_tls f.conn cursor
              = (.error "received plaintext buffer full", (R.read_tls f.conn cursor).2) := by
            rw [← hfull]
          rw [feedLoop, if_neg hne, heq]
          rfl

/-- One pass over a read that fits. -/
theorem reader_pass_fits (h : Handshake) {c : C} {p : ℕ} {d : D} {buf : List UInt8}
    (hat : At c p [] d) (hcursor : buf <+: stream.wire.drop p)
    (hfits : ∀ q ∈ looks F buf.length d p buf.length,
      released stream.records p q ≤ Rustls.RECEIVED_PLAINTEXT_LIMIT) :
    (reader_pass R h c false buf).failed = none ∧
    (reader_pass R h c false buf).clean_close
      = decide (p + buf.length = stream.wire.length) ∧
    plainUpTo stream.records (p + buf.length)
      = plainUpTo stream.records p ++ (reader_pass R h c false buf).plaintext ∧
    At (reader_pass R h c false buf).conn (p + buf.length) [] (fed F buf.length d buf.length) := by
  obtain ⟨unread, hat', hun, hfail, hclean⟩ := feedLoop_fits hR buf.length
    (f := ⟨c, [], false, none⟩) hat (Nat.le_refl _) hcursor (List.append_nil _).symm hfits
  unfold reader_pass
  generalize feedLoop R buf.length buf ⟨c, [], false, none⟩ = f at hat' hfail hclean
  have hread := readLoop_at hR ((R.received_plaintext f.conn).length + 1) hat'
    (by rw [hR.received hat']; omega)
  obtain ⟨hres, hat''⟩ := hread
  refine ⟨hfail, ?_, ?_, hat''⟩
  · simp only [read_available_plaintext, hres]
    by_cases hend : p + buf.length = stream.wire.length
    · simp [hend]
    · cases hcl : f.clean_close with
      | false => rw [Bool.false_or]
      | true => exact absurd ((hclean hcl).resolve_left (by simp)) hend
  · simp only [read_available_plaintext, hres]
    exact hun

/-- One pass over a read that does not fit: the plaintext is still handed on, and the
failure behind it. -/
theorem reader_pass_overflows (h : Handshake) {c : C} {p : ℕ} {d : D} {buf : List UInt8}
    (hat : At c p [] d) (hcursor : buf <+: stream.wire.drop p)
    (hover : ¬ ∀ q ∈ looks F buf.length d p buf.length,
      released stream.records p q ≤ Rustls.RECEIVED_PLAINTEXT_LIMIT) :
    (reader_pass R h c false buf).failed
      = some "transport read failed: received plaintext buffer full" :=
  feedLoop_overflows hR buf.length (f := ⟨c, [], false, none⟩) hat (Nat.le_refl _) hcursor
    (List.append_nil _).symm hover

/-! ## The whole stream -/

omit hR in
/-- A transport read that is not empty, as `reader_task` handles it. -/
theorem reader_task_cons (h : Handshake) (c : C) (out : List UInt8) {status : StreamResult}
    {buf : List UInt8} (reads : List (StreamResult × List UInt8)) (hne : buf ≠ []) :
    reader_task R h c false out ((status, buf) :: reads) =
      match reader_decide (reader_pass R h c false buf).handshake
        (reader_pass R h c false buf).failed (reader_pass R h c false buf).clean_close status with
      | (some verdict, _) => (out ++ (reader_pass R h c false buf).plaintext, some verdict)
      | (none, h') => reader_task R h' (reader_pass R h c false buf).conn
          (reader_pass R h c false buf).clean_close
          (out ++ (reader_pass R h c false buf).plaintext) reads := by
  rw [reader_task, if_neg hne]

/-- **From any position on**, the reader delivers the rest of the data and ends with `Ok`
exactly if the remaining reads fit. -/
theorem reader_task_from (reads : List (StreamResult × List UInt8)) (h : Handshake) {c : C}
    {p : ℕ} {d : D} (out rest : List UInt8) (hat : At c p [] d)
    (hp : p < stream.wire.length)
    (hbytes : (reads.map Prod.snd).flatten = stream.wire.drop p)
    (hne : ∀ r ∈ reads, r.2 ≠ []) (hstatus : ∀ r ∈ reads.dropLast, r.1 = .Complete)
    (hrest : plainUpTo stream.records stream.wire.length
      = plainUpTo stream.records p ++ rest) :
    reader_task R h c false out reads = (out ++ rest, some (.ok ())) ↔
      Fits F stream.records d p (reads.map fun r => r.2.length) := by
  induction reads generalizing h c p d out rest with
  | nil =>
      have hlen := congrArg List.length hbytes
      rw [List.map_nil, List.flatten_nil, List.length_nil, List.length_drop] at hlen
      omega
  | cons r reads ih =>
      obtain ⟨status, buf⟩ := r
      have hbuf : buf ≠ [] := hne _ List.mem_cons_self
      rw [List.map_cons, List.flatten_cons] at hbytes
      have hcursor : buf <+: stream.wire.drop p := ⟨_, hbytes⟩
      have hbytes' : (reads.map Prod.snd).flatten = stream.wire.drop (p + buf.length) := by
        rw [← List.drop_drop, ← hbytes, List.drop_left]
      have hbound := hcursor.length_le
      rw [List.length_drop] at hbound
      rw [List.map_cons, Fits, reader_task_cons h c out reads hbuf]
      by_cases hfits : ∀ q ∈ looks F buf.length d p buf.length,
          released stream.records p q ≤ Rustls.RECEIVED_PLAINTEXT_LIMIT
      · obtain ⟨hfailed, hclean, hplain, hat'⟩ := reader_pass_fits hR h hat hcursor hfits
        generalize reader_pass R h c false buf = pass at hfailed hclean hplain hat' ⊢
        rw [hfailed, hclean]
        by_cases hend : p + buf.length = stream.wire.length
        · -- the close is in: the verdict is `Ok`, and no read is left
          rw [hend] at hplain hbytes'
          rw [List.drop_length] at hbytes'
          have hdone : reads = [] := by
            cases reads with
            | nil => rfl
            | cons r' rs =>
                rw [List.map_cons, List.flatten_cons, List.append_eq_nil_iff] at hbytes'
                exact absurd hbytes'.1 (hne r' (by simp))
          have hsame : pass.plaintext = rest :=
            List.append_cancel_left (hplain.symm.trans hrest)
          simpa [reader_decide, hend, hdone, Fits, hsame] using hfits
        · -- more is to come, so this read was not the last
          have hmore : p + buf.length < stream.wire.length := by omega
          have hnonempty : reads ≠ [] := by
            rintro rfl
            have hlen := congrArg List.length hbytes'
            rw [List.map_nil, List.flatten_nil, List.length_nil, List.length_drop] at hlen
            omega
          have hcomplete : status = .Complete := by
            refine hstatus (status, buf) ?_
            rw [List.dropLast_cons_of_ne_nil hnonempty]
            exact List.mem_cons_self
          -- the data still to come splits at the end of this read
          obtain ⟨rest', hrest'⟩ := plainUpTo_prefix stream.records (Nat.le_of_lt hmore)
          have hsplit : rest = pass.plaintext ++ rest' := by
            rw [hplain, List.append_assoc] at hrest'
            exact (List.append_cancel_left (hrest'.trans hrest)).symm
          have hnext := ih pass.handshake (out ++ pass.plaintext) rest' hat' hmore hbytes'
            (fun r hr => hne r (List.mem_cons_of_mem _ hr))
            (fun r hr => hstatus r (by
              rw [List.dropLast_cons_of_ne_nil hnonempty]
              exact List.mem_cons_of_mem _ hr)) hrest'.symm
          simp only [reader_decide, reader_status, hcomplete, StreamResult.ends, hend,
            decide_false, Bool.false_eq_true, if_false]
          rw [hsplit, ← List.append_assoc, hnext]
          exact ⟨fun h => ⟨hfits, h⟩, fun h => h.2⟩
      · have hfailed := reader_pass_overflows hR h hat hcursor hfits
        rw [hfailed]
        simp [reader_decide, hfits]

/-- **The reader accepts a correct peer's stream -- exactly when every transport read of
it fits.** For every connection that behaves as rustls documents, whatever its partial
reads, every stream of application-data records closed by `close_notify`, and every way
the transport cuts it: the reader delivers exactly the peer's data and ends with `Ok` if
and only if no read brings in more than 16384 bytes of plaintext while a piece of it has
still to be taken. -/
theorem reader_accepts_iff_fits (h : Handshake) {c : C} {d : D} (hat : At c 0 [] d)
    {reads : List (StreamResult × List UInt8)} (hcut : Cut stream reads) :
    reader_task R h c false [] reads = (plainOf stream.records, some (.ok ())) ↔
      Fits F stream.records d 0 (reads.map fun r => r.2.length) := by
  have hall : plainUpTo stream.records stream.wire.length = plainOf stream.records :=
    plainUpTo_all stream.records (by simp [PeerStream.wire])
  have hstart : plainUpTo stream.records 0 = [] := stream.plainUpTo_zero
  have hfrom := reader_task_from hR reads h [] (plainOf stream.records) hat
    stream.wire_length_pos (by rw [hcut.bytes, List.drop_zero])
    (fun r hr => List.length_pos_iff.mp (hcut.sizes r hr).1) hcut.statuses
    (by rw [hall, hstart, List.nil_append])
  rwa [List.nil_append] at hfrom

end Accepts

/-- The greeting, cut in the middle of its first record, is accepted. -/
theorem cut_greeting_is_accepted :
    reader_task (NullTls.rustls NullTls.greeting) ⟨true, []⟩ .connected false []
        [(.Complete, [23, 3, 3]), (.Dropped, [0, 2, 104, 105, 21, 3, 3, 0, 2, 1, 0])]
      = ([104, 105], some (.ok ())) := by
  have hcut : Cut NullTls.greeting
      [(.Complete, [23, 3, 3]), (.Dropped, [0, 2, 104, 105, 21, 3, 3, 0, 2, 1, 0])] :=
    ⟨by decide, by decide, by decide⟩
  refine (reader_accepts_iff_fits (NullTls.accepts NullTls.greeting) ⟨true, []⟩
    (NullTls.at_connected NullTls.greeting) hcut).mpr ?_
  exact ⟨by decide, by decide, trivial⟩

/-! ## A valid stream that is not accepted -/

/-- A TLS 1.3 record with `n` bytes of application data: 22 bytes longer on the wire. -/
def dataRecord (n : ℕ) : Record := ⟨List.replicate (n + 22) 0, List.replicate n 0⟩

@[simp] theorem dataRecord_wire_length (n : ℕ) : (dataRecord n).wire.length = n + 22 :=
  List.length_replicate

@[simp] theorem dataRecord_plain_length (n : ℕ) : (dataRecord n).plain.length = n :=
  List.length_replicate

/-- A full record, a record of one byte, and another full record. -/
def fullAndOne : PeerStream where
  records := [dataRecord 16384, dataRecord 1, dataRecord 16384]
  close_notify := List.replicate 24 0
  data := by
    intro r hr
    simp only [List.mem_cons, List.not_mem_nil, or_false] at hr
    rcases hr with rfl | rfl | rfl <;>
      exact ⟨by simp, by simp, List.length_pos_iff.mp (by simp)⟩
  close_ne := by simp

theorem fullAndOne_wire_length : fullAndOne.wire.length = 32859 := by
  simp [PeerStream.wire, wireOf, fullAndOne]

/-- The stream, cut into reads of 16384 bytes. -/
def fullReads : List (StreamResult × List UInt8) :=
  [(.Complete, fullAndOne.wire.take 16384),
    (.Complete, (fullAndOne.wire.drop 16384).take 16384),
    (.Complete, fullAndOne.wire.drop 32768)]

theorem fullReads_lengths : fullReads.map (fun r => r.2.length) = [16384, 16384, 91] := by
  simp [fullReads, fullAndOne_wire_length]

theorem fullReads_cut : Cut fullAndOne fullReads where
  bytes := by
    have hdrop : fullAndOne.wire.drop 32768 = (fullAndOne.wire.drop 16384).drop 16384 := by
      rw [List.drop_drop]
    simp only [fullReads, List.map_cons, List.map_nil, List.flatten_cons, List.flatten_nil,
      List.append_nil, hdrop]
    rw [List.take_append_drop, List.take_append_drop]
  sizes := by
    intro r hr
    have hlen : r.2.length ∈ fullReads.map fun r => r.2.length := List.mem_map_of_mem hr
    rw [fullReads_lengths] at hlen
    simp only [List.mem_cons, List.not_mem_nil, or_false] at hlen
    unfold CHUNK
    omega
  statuses := by simp [fullReads]

/-- Before the end of its first record the deframer holds everything it took. -/
theorem fullAndOne_held {p bufLen : ℕ} (hp : p < 16406) :
    NullTls.held fullAndOne.records ⟨p, bufLen⟩ = p := by
  simp only [NullTls.held, fullAndOne, completeUpTo, dataRecord_wire_length]
  rw [if_neg (by omega), Nat.sub_zero]

/-- It takes 4 KiB at a time. -/
theorem fullAndOne_turn {p : ℕ} (hp : p + 4096 ≤ 16384) :
    (NullTls.deframer fullAndOne.records).room ⟨p, p⟩ = 4096 ∧
    (NullTls.deframer fullAndOne.records).take ⟨p, p⟩ 4096 = ⟨p + 4096, p + 4096⟩ := by
  have hheld : NullTls.held fullAndOne.records ⟨p, p⟩ = p := fullAndOne_held (by omega)
  have hprep : NullTls.prepared fullAndOne.records ⟨p, p⟩ = p + 4096 := by
    simp only [NullTls.prepared, hheld, NullTls.MAX_WIRE_SIZE, NullTls.READ_SIZE]
    rw [if_pos (by omega)]
    omega
  simp only [NullTls.deframer, hprep, hheld, and_true]
  omega

/-- The first two records, and not the third, are complete at position 18437. -/
theorem fullAndOne_released : released fullAndOne.records (0 + 16384) 18437 = 16385 := by
  have hstart : plainUpTo fullAndOne.records (0 + 16384) = [] := by
    simp only [fullAndOne, plainUpTo, dataRecord_wire_length]
    rw [if_neg (by omega)]
  have hlook : plainUpTo fullAndOne.records 18437
      = (dataRecord 16384).plain ++ ((dataRecord 1).plain ++ []) := by
    simp only [fullAndOne, plainUpTo, dataRecord_wire_length]
    rw [if_pos (by omega), if_pos (by omega), if_neg (by omega)]
  rw [released, hstart, hlook, List.length_append, List.length_append,
    dataRecord_plain_length, dataRecord_plain_length, List.length_nil]

theorem fullAndOne_first_read :
    fed (NullTls.deframer fullAndOne.records) 16384 ⟨0, 0⟩ 16384 = ⟨16384, 16384⟩ := by
  have hturn : ∀ n p len, p + 4096 ≤ 16384 → 4096 ≤ len →
      fed (NullTls.deframer fullAndOne.records) (n + 1) ⟨p, p⟩ len
        = fed (NullTls.deframer fullAndOne.records) n ⟨p + 4096, p + 4096⟩ (len - 4096) := by
    intro n p len hp hlen
    obtain ⟨hroom, htake⟩ := fullAndOne_turn hp
    rw [fed, if_neg (by omega), hroom, Nat.min_eq_right hlen, htake]
  rw [hturn 16383 0 16384 (by omega) (by omega), hturn 16382 4096 12288 (by omega) (by omega),
    hturn 16381 8192 8192 (by omega) (by omega), hturn 16380 12288 4096 (by omega) (by omega)]
  rw [Nat.sub_self, fed, if_pos rfl]

/-- The first 2053 bytes of the second read are taken at once; they complete 16385 bytes of
plaintext, and the rest of that read has still to be taken. -/
theorem fullReads_do_not_fit :
    ¬ Fits (NullTls.deframer fullAndOne.records) fullAndOne.records ⟨0, 0⟩ 0
      [16384, 16384, 91] := by
  rintro ⟨-, hsecond, -⟩
  rw [fullAndOne_first_read] at hsecond
  have hheld : NullTls.held fullAndOne.records ⟨16384, 16384⟩ = 16384 :=
    fullAndOne_held (by omega)
  have hroom : (NullTls.deframer fullAndOne.records).room ⟨16384, 16384⟩ = 2053 := by
    simp [NullTls.deframer, NullTls.prepared, hheld, NullTls.MAX_WIRE_SIZE,
      NullTls.READ_SIZE]
  have hlook : 18437 ∈ looks (NullTls.deframer fullAndOne.records) 16384 ⟨16384, 16384⟩
      (0 + 16384) 16384 := by
    rw [looks, if_neg (by omega), hroom, looks, if_neg (by omega)]
    simp
  have hbad := hsecond 18437 hlook
  rw [fullAndOne_released] at hbad
  exact absurd hbad (by decide)

/-- **A valid stream the reader fails on.** -/
theorem full_and_one_is_not_accepted :
    reader_task (NullTls.rustls fullAndOne) ⟨true, []⟩ .connected false [] fullReads
      ≠ (plainOf fullAndOne.records, some (.ok ())) := by
  have hwhole : plainUpTo fullAndOne.records fullAndOne.wire.length
      = plainUpTo fullAndOne.records 0 ++ plainOf fullAndOne.records := by
    rw [fullAndOne.plainUpTo_zero, List.nil_append]
    exact plainUpTo_all _ (by simp [PeerStream.wire])
  have hiff := reader_task_from (NullTls.accepts fullAndOne) fullReads ⟨true, []⟩ []
    (plainOf fullAndOne.records) (NullTls.at_connected fullAndOne) fullAndOne.wire_length_pos
    (by rw [fullReads_cut.bytes, List.drop_zero])
    (fun r hr => List.length_pos_iff.mp (fullReads_cut.sizes r hr).1) fullReads_cut.statuses
    hwhole
  rw [List.nil_append, fullReads_lengths] at hiff
  exact fun haccepted => fullReads_do_not_fit (hiff.mp haccepted)

end PolymorphTls.PumpChunks
