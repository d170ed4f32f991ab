import CardCatalog.Proofs.Except
import CardCatalog.Proofs.Query.Descent

/-!
How deep a descent goes. A run of a rule is taken for itself, with what its calls keep left open;
the states of a whole descent follow step by step. Main statements: a call that comes back has
left every level that it went down and has not moved back, and the depth is always the number of
levels that open calls are down, of which there are never more than may nest.
-/

set_option autoImplicit false

namespace CardCatalog.Query

/-! ## What a call keeps -/

/-- What a call that was made at a cursor comes back with, if the text has `n` tokens. -/
structure Kept (n : Nat) {α : Type} (s : Cursor) (x : Except QueryError α) (t : Cursor) : Prop where
  depth : t.depth = s.depth
  forward : s.position ≤ t.position
  inside : t.position ≤ n
  advanced : ∀ a, x = .ok a → s.position < t.position

/-- There is room for the levels that the rule goes down, unless there was too little before. -/
def Rule.Fits {r : Rank} (rule : Rule r) (entry : Cursor) : Prop :=
  entry.depth ≤ maxNesting → entry.depth + rule.levels ≤ maxNesting

/-- Where a rule can be that was called at the cursor `entry`. -/
structure Within (n : Nat) {r : Rank} (rule : Rule r) (entry s : Cursor) : Prop where
  depth : s.depth = entry.depth + rule.levels
  forward : entry.position ≤ s.position
  inside : s.position ≤ n
  fits : rule.Fits entry

/-- What bounds the calls within a call: each of them comes after more tokens, or is of a rule
that is called by the other and not the other way round. -/
def Rule.work (n : Nat) {r : Rank} (rule : Rule r) (s : Cursor) : Nat :=
  4 * (n - s.position) +
    match rule with
    | term => 0
    | combination _ => 1
    | option _ => 2
    | nested _ => 3

/-- What is left of a run of a rule that was called at `entry` does what it should if its calls
do. -/
def Action.Sound (tokens : List Token) {r : Rank} (rule : Rule r) (entry : Cursor) :
    Action r → Prop
  | done x s =>
    Kept tokens.length entry x s ∧
      (rule.Fits entry ∨ ∃ offset, x = .error (.tooDeep maxNesting offset))
  | advance s next =>
    Within tokens.length rule entry s ∧
      ∀ x t, s.advance tokens = (x, t) → (next x t).Sound tokens rule entry
  | call inner s next =>
    Within tokens.length rule entry s ∧
      inner.work tokens.length s < rule.work tokens.length entry ∧
      ∀ x t, Kept tokens.length s x t → (next x t).Sound tokens rule entry

section

variable {tokens : List Token} {n : Nat} {s t u entry : Cursor} {α : Type} {r : Rank}
  {rule : Rule r}

theorem Cursor.advance_eq_ok {token : Token} (reads : s.advance tokens = (.ok token, t)) :
    tokens[s.position]? = some token ∧ t = s.next := by
  unfold advance at reads
  split at reads <;> simp_all

theorem Cursor.advance_eq_error {e : QueryError} (reads : s.advance tokens = (.error e, t)) :
    tokens[s.position]? = none ∧ e = .unexpectedEnd ∧ t = s := by
  unfold advance at reads
  split at reads <;> simp_all

theorem kept_advance {x : Except QueryError Token} (inside : s.position ≤ tokens.length)
    (reads : s.advance tokens = (x, t)) : Kept tokens.length s x t := by
  cases x with
  | error e =>
    obtain ⟨-, -, rfl⟩ := Cursor.advance_eq_error reads
    exact ⟨rfl, le_rfl, inside, by simp⟩
  | ok token =>
    obtain ⟨found, rfl⟩ := Cursor.advance_eq_ok reads
    obtain ⟨before, -⟩ := List.getElem?_eq_some_iff.1 found
    exact ⟨rfl, Nat.le_succ _, before, fun _ _ => Nat.lt_succ_self _⟩

theorem Kept.after {x : Except QueryError α} (kept : Kept n t x u) (depth : t.depth = s.depth)
    (forward : s.position ≤ t.position) : Kept n s x u where
  depth := kept.depth.trans depth
  forward := forward.trans kept.forward
  inside := kept.inside
  advanced a ok := forward.trans_lt (kept.advanced a ok)

theorem fits_of_plain (plain : rule.levels = 0) : rule.Fits entry := by
  intro shallow
  simpa [plain] using shallow

namespace Within

theorem start (plain : rule.levels = 0) (inside : s.position ≤ n) : Within n rule s s :=
  ⟨by simp [plain], le_rfl, inside, fits_of_plain plain⟩

theorem kept {x : Except QueryError α} (within : Within n rule entry s) (kept : Kept n s x t) :
    Within n rule entry t :=
  ⟨kept.depth.trans within.depth, within.forward.trans kept.forward, kept.inside, within.fits⟩

theorem next {token : Token} (within : Within tokens.length rule entry s)
    (found : tokens[s.position]? = some token) : Within tokens.length rule entry s.next :=
  ⟨within.depth, within.forward.trans (Nat.le_succ _), (List.getElem?_eq_some_iff.1 found).1,
    within.fits⟩

theorem peeked {kind : TokenKind} (within : Within tokens.length rule entry s)
    (peeks : s.peek? tokens = some kind) : Within tokens.length rule entry s.next := by
  obtain ⟨token, found, -⟩ := Option.map_eq_some_iff.1 peeks
  exact within.next found

theorem further (within : Within n rule entry s) : entry.position < s.next.position :=
  Nat.lt_succ_of_le within.forward

end Within

/-! ## One run of a rule -/

section

variable (plain : rule.levels = 0) (within : Within tokens.length rule entry s)

include plain within

theorem sound_done {x : Except QueryError (Query r)} (kept : Kept tokens.length s x t) :
    (Action.done x t).Sound tokens rule entry :=
  ⟨kept.after (by simpa [plain] using within.depth) within.forward, .inl within.fits⟩

theorem sound_error (e : QueryError) : (Action.done (.error e) s).Sound tokens rule entry :=
  sound_done plain within ⟨rfl, le_rfl, within.inside, by simp⟩

theorem sound_result (x : Except QueryError (Query r)) (further : entry.position < s.position) :
    (Action.done x s).Sound tokens rule entry :=
  ⟨⟨by simpa [plain] using within.depth, within.forward, within.inside, fun _ _ => further⟩,
    .inl within.fits⟩

theorem sound_passing {x : Except QueryError α} {next : α → Cursor → Action r}
    (goes : ∀ a, x = .ok a → (next a s).Sound tokens rule entry) :
    (Action.passing next x s).Sound tokens rule entry := by
  cases x with
  | error e => exact sound_error plain within e
  | ok a => exact goes a rfl

theorem sound_advance {next : Token → Cursor → Action r}
    (goes : ∀ token, Within tokens.length rule entry s.next →
      (next token s.next).Sound tokens rule entry) :
    (Action.advance s (.passing next)).Sound tokens rule entry := by
  refine ⟨within, fun x t reads => ?_⟩
  apply sound_passing plain (within.kept (kept_advance within.inside reads))
  rintro token rfl
  obtain ⟨found, rfl⟩ := Cursor.advance_eq_ok reads
  exact goes token (within.next found)

theorem sound_demand {accepts : TokenKind → Bool} {next : Token → Cursor → Action r}
    (goes : ∀ token, Within tokens.length rule entry s.next →
      (next token s.next).Sound tokens rule entry) :
    (Action.demand accepts s next).Sound tokens rule entry := by
  apply sound_advance plain within
  intro token later
  split
  next => exact goes token later
  next => exact sound_error plain later _

theorem sound_call {inner : Rank} {called : Rule inner} {next : Query inner → Cursor → Action r}
    (falls : called.work tokens.length s < rule.work tokens.length entry)
    (goes : ∀ q t, Within tokens.length rule entry t → s.position < t.position →
      (next q t).Sound tokens rule entry) :
    (Action.call called s (.passing next)).Sound tokens rule entry := by
  refine ⟨within, falls, fun x t kept => ?_⟩
  apply sound_passing plain (within.kept kept)
  intro q ok
  exact goes q t (within.kept kept) (kept.advanced q ok)

theorem sound_last {called : Rule r}
    (falls : called.work tokens.length s < rule.work tokens.length entry) :
    (Action.call called s .done).Sound tokens rule entry :=
  ⟨within, falls, fun _ _ kept => sound_done plain within kept⟩

end

end

section

variable (rate : Float) {tokens : List Token} {s entry : Cursor} {r : Rank}

theorem sound_keywordTerm (word : Token) (within : Within tokens.length .term entry s) :
    (keywordTerm rate tokens word s).Sound tokens .term entry := by
  apply sound_advance rfl within
  intro sign afterSign
  split
  next => exact sound_error rfl afterSign _
  next operator reads =>
    -- A mark for an exact value may stand between the sign and the value.
    have afterMark : Within tokens.length .term entry
        (if (sign.kind.isEquality && decide (s.next.peek? tokens = some .bang)) = true then
          s.next.next else s.next) := by
      split
      next marked => exact afterSign.peeked (of_decide_eq_true (Bool.and_eq_true_iff.1 marked).2)
      next => exact afterSign
    apply sound_demand rfl afterMark
    intro value later
    exact sound_result rfl later _ afterMark.further

theorem sound_option (left : Option (Query .any)) (inside : s.position ≤ tokens.length) :
    ((Rule.option left).body rate tokens s).Sound tokens (.option left) s := by
  have within : Within tokens.length (.option left) s s := .start rfl inside
  apply sound_call rfl within (by simp [Rule.work])
  intro q t later further
  split
  next or =>
    have next := later.peeked or
    apply sound_last rfl next
    have bound := next.inside
    simp only [Rule.work, Cursor.next] at bound ⊢
    omega
  next => exact sound_result rfl later _ further

theorem sound_combination (left : Option (Query .all)) (inside : s.position ≤ tokens.length) :
    ((Rule.combination left).body rate tokens s).Sound tokens (.combination left) s := by
  have within : Within tokens.length (.combination left) s s := .start rfl inside
  apply sound_call rfl within (by simp [Rule.work])
  intro q t later further
  split
  next starts =>
    apply sound_last rfl later
    have bound := later.inside
    simp only [Rule.work]
    omega
  next => exact sound_result rfl later _ further

theorem sound_term (inside : s.position ≤ tokens.length) :
    (Rule.term.body rate tokens s).Sound tokens .term s := by
  have within : Within tokens.length .term s s := .start rfl inside
  apply sound_advance rfl within
  intro token later
  cases kind : token.kind with
  | not | openParen =>
    apply sound_last rfl later
    have bound := later.inside
    simp only [Rule.work, Cursor.next] at bound ⊢
    omega
  | quoted => exact sound_result rfl later _ within.further
  | bang =>
    apply sound_demand rfl later
    intro value afterValue
    exact sound_result rfl afterValue _ later.further
  | word =>
    simp only
    split
    next => exact sound_keywordTerm rate token later
    next => exact sound_result rfl later _ within.further
  | _ => exact sound_error rfl later _

/-- The level is left at the depth at which the call was made, whatever came of it. -/
theorem sound_leave {sign : Token} {x : Except QueryError (Query .single)}
    (within : Within tokens.length (.nested sign) entry s)
    (further : ∀ q, x = .ok q → entry.position < s.position) :
    (Action.done x s.leave).Sound tokens (.nested sign) entry := by
  have left : s.leave.depth = entry.depth := by
    have depth := within.depth
    simp only [Rule.levels, Cursor.leave] at depth ⊢
    omega
  exact ⟨⟨left, within.forward, within.inside, further⟩, .inl within.fits⟩

theorem sound_nested (sign : Token) (inside : s.position ≤ tokens.length) :
    ((Rule.nested sign).body rate tokens s).Sound tokens (.nested sign) s := by
  simp only [Rule.body]
  split
  next full => exact ⟨⟨rfl, le_rfl, inside, by simp⟩, .inr ⟨sign.offset, rfl⟩⟩
  next room =>
    have fits : (Rule.nested sign).Fits s := by
      intro shallow
      simp only [Rule.levels]
      omega
    have within : Within tokens.length (.nested sign) s s.enter := ⟨rfl, le_rfl, inside, fits⟩
    split
    next =>
      refine ⟨within, by simp [Rule.work, Cursor.enter], fun x t kept => ?_⟩
      apply sound_leave (within.kept kept)
      intro q ok
      obtain ⟨inner, done, -⟩ := map_eq_ok_iff.1 ok
      exact kept.advanced inner done
    next =>
      refine ⟨within, by simp [Rule.work, Cursor.enter], fun x t kept => ?_⟩
      have later := within.kept kept
      cases x with
      | error e => exact sound_leave later (by simp)
      | ok q =>
        refine ⟨later, fun y u reads => ?_⟩
        have closing := kept_advance later.inside reads
        apply sound_leave (later.kept closing)
        intro _ _
        exact (kept.advanced q rfl).trans_le closing.forward

theorem body_sound (rule : Rule r) (inside : s.position ≤ tokens.length) :
    (rule.body rate tokens s).Sound tokens rule s := by
  cases rule with
  | option left => exact sound_option rate left inside
  | combination left => exact sound_combination rate left inside
  | term => exact sound_term rate inside
  | nested sign => exact sound_nested rate sign inside

end

/-! ## Every state of a descent -/

/-- The calls that wait for one that was made at the cursor go on as they should. -/
def Callers.Sound (tokens : List Token) {r : Rank} : Callers r → Cursor → Prop
  | nil, s => s.depth = 0
  | cons rule next callers, s =>
    ∃ entry, Within tokens.length rule entry s ∧
      (∀ x t, Kept tokens.length s x t → (next x t).Sound tokens rule entry) ∧
      callers.Sound tokens entry

def Descent.Sound (tokens : List Token) (d : Descent) : Prop :=
  ∃ entry, d.action.Sound tokens d.rule entry ∧ d.callers.Sound tokens entry

section

variable {rate : Float} {tokens : List Token} {r : Rank}

theorem Callers.Sound.depth_eq {callers : Callers r} {s : Cursor}
    (sound : callers.Sound tokens s) : s.depth = callers.levels ∧ s.depth ≤ maxNesting := by
  induction callers generalizing s with
  | nil =>
    have depth : s.depth = 0 := sound
    simp [depth, levels]
  | cons rule next callers ih =>
    obtain ⟨entry, within, -, outer⟩ := sound
    obtain ⟨depth, shallow⟩ := ih outer
    have inner := within.depth
    have fits := within.fits shallow
    simp only [levels, Nat.cast_add]
    omega

namespace Action.Sound

variable {rule : Rule r} {action : Action r} {entry : Cursor}

theorem cursor (sound : action.Sound tokens rule entry) (shallow : entry.depth ≤ maxNesting) :
    entry.depth ≤ action.cursor.depth ∧ action.cursor.depth ≤ entry.depth + rule.levels ∧
    action.cursor.depth ≤ maxNesting ∧ action.cursor.position ≤ tokens.length := by
  have inside {s : Cursor} (within : Within tokens.length rule entry s) :
      entry.depth ≤ s.depth ∧ s.depth ≤ entry.depth + rule.levels ∧ s.depth ≤ maxNesting ∧
        s.position ≤ tokens.length := by
    have depth := within.depth
    have fits := within.fits shallow
    exact ⟨by omega, by omega, by omega, within.inside⟩
  cases action with
  | done x s =>
    have depth : s.depth = entry.depth := sound.1.depth
    have position := sound.1.inside
    change entry.depth ≤ s.depth ∧ s.depth ≤ entry.depth + rule.levels ∧ s.depth ≤ maxNesting ∧
      s.position ≤ tokens.length
    omega
  | advance s next => exact inside sound.1
  | call inner s next => exact inside sound.1

/-- A rule that goes down a level has room for it, or it is refused. -/
theorem room (sound : action.Sound tokens rule entry) :
    rule.Fits entry ∨ ∃ offset s, action = done (.error (.tooDeep maxNesting offset)) s := by
  cases action with
  | done x s =>
    rcases sound.2 with fits | ⟨offset, rfl⟩
    next => exact .inl fits
    next => exact .inr ⟨offset, s, rfl⟩
  | advance s next => exact .inl sound.1.fits
  | call inner s next => exact .inl sound.1.fits

end Action.Sound

namespace Descent

theorem sound_start (rate : Float) (tokens : List Token) : (start rate tokens).Sound tokens :=
  ⟨⟨0, 0⟩, body_sound rate (.option none) (Nat.zero_le _), rfl⟩

theorem sound_next? {d e : Descent} (sound : d.Sound tokens)
    (steps : d.next? rate tokens = some e) : e.Sound tokens := by
  obtain ⟨rule, action, callers⟩ := d
  obtain ⟨entry, running, waiting⟩ := sound
  cases action with
  | advance s next =>
    cases steps
    exact ⟨entry, running.2 _ _ rfl, waiting⟩
  | call inner s next =>
    cases steps
    obtain ⟨within, -, goes⟩ := running
    exact ⟨s, body_sound rate inner within.inside, entry, within, goes, waiting⟩
  | done x s =>
    cases callers with
    | nil => cases steps
    | cons rule next callers =>
      cases steps
      obtain ⟨outer, -, goes, waiting⟩ := waiting
      exact ⟨outer, goes x s running.1, waiting⟩

theorem sound_of_leads {d : Descent} (leads : (start rate tokens).Leads rate tokens d) :
    d.Sound tokens := by
  induction leads with
  | refl => exact sound_start rate tokens
  | tail _ steps ih => exact sound_next? ih steps

theorem Sound.bounds {d : Descent} (sound : d.Sound tokens) :
    d.callers.levels ≤ d.action.cursor.depth ∧
    d.action.cursor.depth ≤ d.callers.levels + d.rule.levels ∧
    d.action.cursor.depth ≤ maxNesting ∧ d.action.cursor.position ≤ tokens.length ∧
    (d.callers.levels + d.rule.levels ≤ maxNesting ∨
      ∃ offset s, d.action = .done (.error (.tooDeep maxNesting offset)) s) := by
  obtain ⟨entry, running, waiting⟩ := sound
  obtain ⟨depth, shallow⟩ := waiting.depth_eq
  obtain ⟨above, below, bounded, inside⟩ := running.cursor shallow
  refine ⟨depth ▸ above, depth ▸ below, bounded, inside, running.room.imp_left fun fits => ?_⟩
  have room := fits shallow
  omega

end Descent

end

end CardCatalog.Query
