import Travelo.Auth.Sessions

/-!
# Refresh tokens rotate

A refresh reads its session, compares the hash, looks the account up and stores the hash of a new
token by the session's id alone. Two refreshes of one token that both compare before either
stores are both answered with a pair, and so is a refresh whose session is revoked, for a replay,
in the meantime (`one_token_twice`).

`refresh_rotates_once`: as long as each new hash replaces the hash of the token presented, in a
session on which no replay has been refused, each token is exchanged once, a refused replay ends
its session, and a session that is revoked refuses whoever comes later.
-/

namespace Travelo

open ReadCommitted

/-! ## The law -/

/-- The hash of a token with this `jti`. -/
def hasJti (jti : Id) : Argon2 RefreshToken → Bool
  | .hash t => t.jti = jti
  | .malformed => false

/-- Every signed token has a `jti` of its own: those the calls sign are different, and none is
that of a token whose hash is stored. -/
def FreshJtis (calls : List AuthCall) (db : AuthDb) : Prop :=
  (calls.Pairwise fun a b => ∀ r ∈ a.refresh?, ∀ r' ∈ b.refresh?, r.env.jti ≠ r'.env.jti) ∧
  ∀ surface, ∀ s ∈ db.sessions surface, ∀ call ∈ calls, ∀ r ∈ call.refresh?,
    hasJti r.env.jti s.refreshTokenHash = false

/-- What holds of a run that has come to `c` and then to `c'`. -/
structure RotatesOnce (calls : List AuthCall) (c c' : AuthRun) : Prop where
  /-- Whoever is answered with a pair has stored the hash of a new token. -/
  answered : ∀ i r, calls[i]? = some (.refresh r) → ∀ pair, c'.answer i = some (.ok (some pair)) →
    Exchanged calls c' i r
  /-- Each token is exchanged for one pair. -/
  once : ∀ i j r r' t, Exchanged calls c' i r → Exchanged calls c' j r' →
    r.refreshToken = some t → r'.refreshToken = some t → i = j
  /-- From the moment a superseded token is refused its session is revoked, and nobody else's
  refresh of it succeeds. -/
  replay : ∀ i r t, calls[i]? = some (.refresh r) → r.refreshToken = some t →
    c.answer i = some (.error .refreshTokenMismatch) →
    Revoked c'.db r.surface t.sid = true ∧ ∀ j r' t', Exchanged calls c' j r' →
      r'.refreshToken = some t' → r'.surface = r.surface → t'.sid = t.sid → Exchanged calls c j r'
  /-- A revoked session yields nothing to a refresh that starts later. -/
  revoked : ∀ j r t, Waiting calls c j r → r.refreshToken = some t →
    Revoked c.db r.surface t.sid = true → ¬Exchanged calls c' j r

/-- When a refresh stores its new hash, the session still holds the token it presented, and no
replay has been refused on the session. -/
def ExchangesCurrent (calls : List AuthCall) (c : AuthRun) : Event → Prop
  | .step i =>
    ∀ s ∈ c.sessions[i]?, ∀ r ∈ calls[i]?.bind AuthCall.refresh?, ∀ t ∈ r.token,
      s.trace.length = 2 → (s.published c.db).length ≠ 0 →
        Stored c.db t = true ∧ ∀ p ∈ calls.zip c.sessions, ∀ r' ∈ p.1.refresh?, ∀ t' ∈ r'.token,
          refused p.2.trace = true → r'.surface = r.surface → t'.sid ≠ t.sid
  | _ => True

instance (calls : List AuthCall) (c : AuthRun) : (ev : Event) →
    Decidable (ExchangesCurrent calls c ev)
  | .step _ => inferInstanceAs (Decidable (∀ _ ∈ _, _))
  | .fault _ _ => .isTrue trivial
  | .crash _ => .isTrue trivial

/-! ## What a history shows -/

section Histories

variable {h : AuthTrace} {l : AuthLook} {b : AuthDb}

theorem exchanged_saw : exchanged (.saw l b :: h) = exchanged h := by
  unfold exchanged
  rw [List.reverse_cons]
  rcases h.reverse with _ | ⟨_ | _, _ | ⟨_ | _, _ | ⟨_ | _, _⟩⟩⟩ <;> rfl

theorem refused_saw : refused (.saw l b :: h) = refused h := by
  unfold refused
  rw [List.reverse_cons]
  rcases h.reverse with _ | ⟨_ | _, _ | ⟨_ | _, _⟩⟩ <;> rfl

theorem suffix_of_exchanged (hx : exchanged h = true) :
    ∃ w l₁ b₁ l₂ b₂, .wrote w :: [.saw l₂ b₂, .saw l₁ b₁] <:+ h := by
  unfold exchanged at hx
  rcases hr : h.reverse with _ | ⟨⟨l₁, b₁⟩ | _, _ | ⟨⟨l₂, b₂⟩ | _, _ | ⟨_ | w, rest⟩⟩⟩ <;>
    rw [hr] at hx <;> try cases hx
  refine ⟨w, l₁, b₁, l₂, b₂, rest.reverse, ?_⟩
  rw [← List.reverse_inj, hr]
  simp

theorem suffix_of_refused (hx : refused h = true) :
    ∃ w l₁ b₁, .wrote w :: [.saw l₁ b₁] <:+ h := by
  unfold refused at hx
  rcases hr : h.reverse with _ | ⟨⟨l₁, b₁⟩ | _, _ | ⟨_ | w, rest⟩⟩ <;>
    rw [hr] at hx <;> try cases hx
  refine ⟨w, l₁, b₁, rest.reverse, ?_⟩
  rw [← List.reverse_inj, hr]
  simp

end Histories

/-! ## What a step can do -/

/-- A step of the calls, by what it publishes. -/
inductive AuthStep (cfg : AuthConfig) (calls : List AuthCall) (c c' : AuthRun) : Prop where
  | other (hdb : c'.db = c.db ∨ ∃ w, SignOut w ∧ c'.db = w c.db)
      (hE : ∀ j r, Exchanged calls c' j r ↔ Exchanged calls c j r)
      (hR : ∀ j r, Refused calls c' j r ↔ Refused calls c j r)
  | refuse (i : ℕ) (r : RefreshCall) (t : RefreshToken) (ht : r.token = some t)
      (hrow : (sessionOf r.surface t.sid c.db).isSome = true)
      (hdb : c'.db = revokeSessions r.surface (fun s => s.id = t.sid) r.env.now c.db)
      (hE : ∀ j r', Exchanged calls c' j r' ↔ Exchanged calls c j r')
      (hR : ∀ j r', Refused calls c' j r' ↔ Refused calls c j r' ∨ (j = i ∧ r' = r))
  | exchange (i : ℕ) (r : RefreshCall) (t : RefreshToken) (sub : Id)
      (hcall : calls[i]? = some (.refresh r)) (ht : r.token = some t)
      (hdb : c'.db = storeHash (signRefresh cfg r.env r.surface sub t.sid) r.env.now c.db)
      (hnot : ¬Exchanged calls c i r)
      (hE : ∀ j r', Exchanged calls c' j r' ↔ Exchanged calls c j r' ∨ (j = i ∧ r' = r))
      (hR : ∀ j r', Refused calls c' j r' ↔ Refused calls c j r')
      (hstored : Stored c.db t = true)
      (hnone : ∀ j r' t', Refused calls c j r' → r'.token = some t' → r'.surface = r.surface →
        t'.sid ≠ t.sid)

/-- Sessions stay, and a session that is revoked stays so. -/
def Later (db db' : AuthDb) : Prop :=
  ∀ surface sid, ((sessionOf surface sid db).isSome → (sessionOf surface sid db').isSome) ∧
    (Revoked db surface sid = true → Revoked db' surface sid = true)

theorem Later.refl (db : AuthDb) : Later db db := fun _ _ => ⟨fun h => h, fun h => h⟩

theorem Later.trans {db db' db'' : AuthDb} (h : Later db db') (h' : Later db' db'') :
    Later db db'' :=
  fun surface sid => ⟨fun hs => (h' surface sid).1 ((h surface sid).1 hs),
    fun hr => (h' surface sid).2 ((h surface sid).2 hr)⟩

theorem later_update {db : AuthDb} {surface : Surface} {p : AuthSession → Bool}
    {f : AuthSession → AuthSession} {hf : ∀ s, (f s).id = s.id}
    (hkeep : ∀ s : AuthSession, s.revokedAt.isSome → (f s).revokedAt.isSome) :
    Later db (updateSessions surface p f hf db) := by
  intro surface' sid
  constructor
  · intro hs
    rw [sessionOf_update]
    split
    · simpa using hs
    · exact hs
  · exact revoked_update hkeep

theorem SignOut.later {w : AuthDb → AuthDb} (hw : SignOut w) (db : AuthDb) : Later db (w db) := by
  cases hw with
  | revoke surface p now => exact later_update fun _ _ => rfl
  | admins f => exact Later.refl db

theorem AuthWrite.later {cfg : AuthConfig} {call : AuthCall} {h : AuthTrace} {w : AuthDb → AuthDb}
    (hw : AuthWrite cfg call h w) (db : AuthDb) : Later db (w db) := by
  cases call with
  | refresh r =>
    cases hw with
    | exchange sub ht hrow hlive => exact later_update fun _ hs => hs
    | refuse ht hrow => exact later_update fun _ _ => rfl
  | _ => exact SignOut.later hw db

/-- What holds while the calls are interleaved. -/
structure RotationKept (cfg : AuthConfig) (calls : List AuthCall) (c : AuthRun) : Prop where
  proving : Config.Proving (fun i h w => ∃ call, calls[i]? = some call ∧ AuthWrite cfg call h w)
    (fun i a h _ => ∀ r, calls[i]? = some (.refresh r) → RefreshDone a h) c
  /-- What a call has read was the state of an earlier moment. -/
  seen : ∀ (i : ℕ) s, c.sessions[i]? = some s → ∀ l b, .saw l b ∈ s.trace → Later b c.db
  /-- The token of a call is stored after the call has stored it. -/
  stored : ∀ surface, ∀ s ∈ c.db.sessions surface, ∀ j r, calls[j]? = some (.refresh r) →
    hasJti r.env.jti s.refreshTokenHash = true → Exchanged calls c j r
  /-- A token that was exchanged is stored no more, and no call signs it again. -/
  spent : ∀ i r t, Exchanged calls c i r → r.token = some t →
    Stored c.db t = false ∧ ∀ j r', calls[j]? = some (.refresh r') → r'.env.jti = t.jti →
      Exchanged calls c j r'
  once : ∀ i j r r' t, Exchanged calls c i r → Exchanged calls c j r' → r.token = some t →
    r'.token = some t → i = j
  closed : ∀ i r t, Refused calls c i r → r.token = some t →
    Revoked c.db r.surface t.sid = true

section Step

variable {cfg : AuthConfig} {calls : List AuthCall} {c c' : AuthRun} {ev : Event}

theorem RotationKept.authStep (hk : RotationKept cfg calls c) (hg : ExchangesCurrent calls c ev)
    (hn : c.next ev = some c') : AuthStep cfg calls c c' := by
  obtain ⟨i, s, s', hs, hset, ⟨hdb, htrace⟩ | ⟨w, hev, hpub, htrace, hdb⟩⟩ := Config.next_trace hn
  · -- Nothing is published, and a read shows nothing.
    have hsame : exchanged s'.trace = exchanged s.trace ∧ refused s'.trace = refused s.trace := by
      rcases htrace with htrace | ⟨l, htrace⟩
      · rw [htrace]
        exact ⟨rfl, rfl⟩
      · rw [htrace]
        exact ⟨exchanged_saw, refused_saw⟩
    exact .other (.inl hdb) (fun j r => and_congr_right fun _ => Config.shows_same hs hset hsame.1 j)
      fun j r => and_congr_right fun _ => Config.shows_same hs hset hsame.2 j
  · rcases hk.proving.publishes hs hpub with ⟨call, hcall, hw⟩
    cases hrefresh : call.refresh? with
    | none =>
      -- The call is no refresh, so whatever it shows does not count.
      have hsign : SignOut w := by
        cases call with
        | refresh r => cases hrefresh
        | _ => exact hw
      have hnot : ∀ r, calls[i]? ≠ some (.refresh r) := by
        intro r heq
        rw [hcall, Option.some.injEq] at heq
        rw [heq] at hrefresh
        cases hrefresh
      have hsame : ∀ q j r, calls[j]? = some (AuthCall.refresh r) →
          (c'.Shows q j ↔ c.Shows q j) := by
        intro q j r hj
        have hne : j ≠ i := by
          rintro rfl
          exact hnot r hj
        simp [Config.shows_set hs hset, hne]
      exact .other (.inr ⟨w, hsign, hdb⟩) (fun j r => and_congr_right (hsame exchanged j r))
        fun j r => and_congr_right (hsame refused j r)
    | some r =>
      obtain rfl : call = .refresh r := by
        cases call with
        | refresh r' => exact congrArg AuthCall.refresh (Option.some.inj hrefresh)
        | _ => cases hrefresh
      have hmine : ∀ j r', calls[j]? = some (.refresh r') → j = i → r' = r := by
        rintro j r' hj rfl
        rw [hcall, Option.some.injEq, AuthCall.refresh.injEq] at hj
        exact hj.symm
      have hnew : ∀ q : AuthTrace → Bool, q s.trace = false → q s'.trace = true → ∀ j r',
          (calls[j]? = some (.refresh r') ∧ c'.Shows q j) ↔
            (calls[j]? = some (.refresh r') ∧ c.Shows q j) ∨ (j = i ∧ r' = r) := by
        intro q hold hnew j r'
        rw [Config.shows_set hs hset, hnew]
        by_cases hj : j = i
        · subst hj
          have hno : ¬c.Shows q j := by simp [Config.shows_of_getElem? hs, hold]
          simp only [hno, and_true, true_and, and_false, false_or, or_true]
          constructor
          · exact fun hj => hmine j r' hj rfl
          · rintro rfl
            exact hcall
        · simp [hj]
      generalize hh : s.trace = h at hw
      cases hw with
      | @refuse t b ht hrow =>
        have hbefore : exchanged s.trace = false ∧ refused s.trace = false := by
          rw [hh]
          exact ⟨rfl, rfl⟩
        have hafter : exchanged s'.trace = false ∧ refused s'.trace = true := by
          rw [htrace, hh]
          exact ⟨rfl, rfl⟩
        have hthere : (sessionOf r.surface t.sid c.db).isSome = true :=
          (hk.seen i s hs (.session r.surface t.sid) b (by simp [hh]) r.surface t.sid).1 hrow
        exact .refuse i r t ht hthere hdb (fun j r' => and_congr_right fun _ =>
          Config.shows_same hs hset (hafter.1.trans hbefore.1.symm) j) (hnew refused hbefore.2 hafter.2)
      | @exchange t a b row sub ht hrow hlive =>
        have hbefore : exchanged s.trace = false ∧ refused s.trace = false := by
          rw [hh]
          exact ⟨rfl, rfl⟩
        have hafter : exchanged s'.trace = true ∧ refused s'.trace = false := by
          rw [htrace, hh]
          exact ⟨rfl, rfl⟩
        subst hev
        have hwrites : (s.published c.db).length ≠ 0 := by
          have hmem := Session.mem_published.mpr hpub
          intro hzero
          rw [List.length_eq_zero_iff.mp hzero] at hmem
          cases hmem
        rcases hg s hs r (by simp [hcall, AuthCall.refresh?]) t ht (by simp [hh]) hwrites with
          ⟨hstored, hnone⟩
        refine .exchange i r t sub hcall ht hdb ?_ (hnew exchanged hbefore.1 hafter.1)
          (fun j r' => and_congr_right fun _ =>
            Config.shows_same hs hset (hafter.2.trans hbefore.2.symm) j) hstored ?_
        · rintro ⟨-, hshows⟩
          rw [Config.shows_of_getElem? hs, hbefore.1] at hshows
          cases hshows
        · rintro j r' t' ⟨hcall', s₁, hs₁, hrefused⟩ ht' hsurface
          have hzip : (calls.zip c.sessions)[j]? = some (.refresh r', s₁) :=
            List.getElem?_zip_eq_some.mpr ⟨hcall', hs₁⟩
          exact hnone _ (List.mem_of_getElem? hzip) r' rfl t' ht' hrefused hsurface

/-- Nothing is said to another hash. -/
structure SameHashes (db db' : AuthDb) : Prop where
  rows : ∀ surface, ∀ s' ∈ db'.sessions surface, ∃ s ∈ db.sessions surface,
    s.refreshTokenHash = s'.refreshTokenHash
  stored : ∀ t, Stored db' t = Stored db t

theorem sameHashes_refl (db : AuthDb) : SameHashes db db :=
  ⟨fun _ s hs => ⟨s, hs, rfl⟩, fun _ => rfl⟩

variable {db : AuthDb}

theorem sameHashes_revoke {surface : Surface} {p : AuthSession → Bool} {now : ℤ} :
    SameHashes db (revokeSessions surface p now db) := by
  refine ⟨fun surface' s' hs' => ?_, fun _ => stored_revoke⟩
  unfold revokeSessions updateSessions at hs'
  by_cases h : surface' = surface
  · subst h
    simp only [Function.update_self, mem_update] at hs'
    rcases hs' with ⟨s, hs, rfl⟩
    exact ⟨s, hs, by split <;> rfl⟩
  · simp only [Function.update_of_ne h] at hs'
    exact ⟨s', hs', rfl⟩

theorem SignOut.sameHashes {w : AuthDb → AuthDb} (hw : SignOut w) (db : AuthDb) :
    SameHashes db (w db) := by
  cases hw with
  | revoke surface p now => exact sameHashes_revoke
  | admins f => exact ⟨fun _ s hs => ⟨s, hs, rfl⟩, fun _ => rfl⟩

variable {t : RefreshToken}

theorem rows_storeHash {now : ℤ} {surface : Surface} {s' : AuthSession}
    (hs' : s' ∈ (storeHash t now db).sessions surface) :
    s'.refreshTokenHash = .hash t ∨ ∃ s ∈ db.sessions surface,
      s.refreshTokenHash = s'.refreshTokenHash := by
  unfold storeHash updateSessions at hs'
  by_cases h : surface = t.surface
  · subst h
    simp only [Function.update_self, mem_update] at hs'
    rcases hs' with ⟨s, hs, rfl⟩
    split
    · exact .inl rfl
    · exact .inr ⟨s, hs, rfl⟩
  · simp only [Function.update_of_ne h] at hs'
    exact .inr ⟨s', hs', rfl⟩

variable {r : RefreshCall}

theorem RefreshCall.token_eq (ht : r.token = some t) :
    r.refreshToken = some t ∧ t.surface = r.surface := by
  rcases Option.filter_eq_some_iff.mp ht with ⟨hpresented, hvalid⟩
  simp only [and_decide_eq] at hvalid
  exact ⟨hpresented, hvalid.1⟩

theorem hasJti_of_stored (h : Stored db t = true) :
    ∃ s ∈ db.sessions t.surface, hasJti t.jti s.refreshTokenHash = true := by
  rcases (Option.any_eq_true _ _).mp h with ⟨s, hs, hverify⟩
  refine ⟨s, mem_of_find? hs, ?_⟩
  cases hhash : s.refreshTokenHash with
  | malformed => simp [hhash, Argon2.verify] at hverify
  | hash t' =>
    simp only [hhash, Argon2.verify, decide_eq_true_eq] at hverify
    simp [hasJti, hverify]

/-- The calls sign tokens with different `jti`s. -/
def DistinctJtis (calls : List AuthCall) : Prop :=
  ∀ (i j : ℕ) r r', calls[i]? = some (AuthCall.refresh r) → calls[j]? = some (AuthCall.refresh r') →
    r.env.jti = r'.env.jti → i = j

theorem RotationKept.seen_next (hk : RotationKept cfg calls c) (hn : c.next ev = some c') :
    ∀ (i : ℕ) s, c'.sessions[i]? = some s → ∀ l b, .saw l b ∈ s.trace → Later b c'.db := by
  refine Config.each_next (F := fun _ db h => ∀ l b, .saw l b ∈ h → Later b db) hk.seen ?_ hn ?_ ?_
  · intro _ db h l hold l' b hb
    rcases List.mem_cons.mp hb with heq | hmem
    · cases heq
      exact Later.refl _
    · exact hold l' b hmem
  · intro i s w _ hs hpub l b hb
    rcases hk.proving.publishes hs hpub with ⟨call, -, hw⟩
    rcases List.mem_cons.mp hb with heq | hmem
    · cases heq
    · exact (hk.seen i s hs l b hmem).trans (hw.later c.db)
  · intro i j s w h _ hs hpub _ hold l b hb
    rcases hk.proving.publishes hs hpub with ⟨call, -, hw⟩
    exact (hold l b hb).trans (hw.later c.db)

theorem RotationKept.of_sameHashes (hk : RotationKept cfg calls c) (hn : c.next ev = some c')
    (hsame : SameHashes c.db c'.db) (hE : ∀ j r, Exchanged calls c' j r ↔ Exchanged calls c j r)
    (hclosed : ∀ i r t, Refused calls c' i r → r.token = some t →
      Revoked c'.db r.surface t.sid = true) : RotationKept cfg calls c' where
  proving := hk.proving.next hn
  seen := hk.seen_next hn
  stored surface s' hs' j r hj hjti := by
    rcases hsame.rows surface s' hs' with ⟨s, hs, hhash⟩
    exact (hE j r).mpr (hk.stored surface s hs j r hj (hhash ▸ hjti))
  spent i r t hi ht := by
    rcases hk.spent i r t ((hE i r).mp hi) ht with ⟨hgone, hjti⟩
    rw [hsame.stored]
    exact ⟨hgone, fun j r' hj heq => (hE j r').mpr (hjti j r' hj heq)⟩
  once i j r r' t hi hj := hk.once i j r r' t ((hE i r).mp hi) ((hE j r').mp hj)
  closed := hclosed

theorem RotationKept.next (hdistinct : DistinctJtis calls) (hk : RotationKept cfg calls c)
    (hg : ExchangesCurrent calls c ev) (hn : c.next ev = some c') : RotationKept cfg calls c' := by
  cases hk.authStep hg hn with
  | other hdb hE hR =>
    have hsame : SameHashes c.db c'.db := by
      rcases hdb with hdb | ⟨w, hw, hdb⟩
      · rw [hdb]
        exact sameHashes_refl c.db
      · rw [hdb]
        exact hw.sameHashes c.db
    have hlater : Later c.db c'.db := by
      rcases hdb with hdb | ⟨w, hw, hdb⟩
      · rw [hdb]
        exact Later.refl c.db
      · rw [hdb]
        exact hw.later c.db
    refine hk.of_sameHashes hn hsame hE fun i r t hi ht => ?_
    exact (hlater r.surface t.sid).2 (hk.closed i r t ((hR i r).mp hi) ht)
  | refuse i r t ht hrow hdb hE hR =>
    refine hk.of_sameHashes hn (hdb ▸ sameHashes_revoke) hE fun j r' t' hj ht' => ?_
    rw [hdb]
    rcases (hR j r').mp hj with hold | ⟨-, rfl⟩
    · exact revoked_update (fun _ _ => rfl) (hk.closed j r' t' hold ht')
    · rw [ht, Option.some.injEq] at ht'
      subst ht'
      exact revoked_revokeById hrow
  | exchange i r t sub hcall ht hdb hnot hE hR hstored hnone =>
    rcases RefreshCall.token_eq ht with ⟨-, hsurface⟩
    have hnew : Exchanged calls c' i r := (hE i r).mpr (.inr ⟨rfl, rfl⟩)
    -- The token presented is stored, so whoever signed it has exchanged before.
    have hsigned : ∀ j r', calls[j]? = some (AuthCall.refresh r') → r'.env.jti = t.jti →
        Exchanged calls c j r' := by
      intro j r' hj hjti
      rcases hasJti_of_stored hstored with ⟨s, hs, hhas⟩
      exact hk.stored t.surface s hs j r' hj (hjti ▸ hhas)
    refine ⟨hk.proving.next hn, hk.seen_next hn, fun surface s' hs' j r' hj hjti => ?_,
      fun j r' t' hj ht' => ?_, fun j k r₁ r₂ t' hj hk' h₁ h₂ => ?_, fun j r' t' hj ht' => ?_⟩
    · rw [hdb] at hs'
      rcases rows_storeHash hs' with hhash | ⟨s, hs, hhash⟩
      · rw [hhash] at hjti
        obtain rfl : i = j := hdistinct i j r r' hcall hj (of_decide_eq_true hjti)
        rw [hcall, Option.some.injEq, AuthCall.refresh.injEq] at hj
        exact hj ▸ hnew
      · exact (hE j r').mpr (.inl (hk.stored surface s hs j r' hj (hhash ▸ hjti)))
    · rcases (hE j r').mp hj with hold | ⟨-, rfl⟩
      · rcases hk.spent j r' t' hold ht' with ⟨hgone, hjti⟩
        refine ⟨?_, fun k r₂ hk' heq => (hE k r₂).mpr (.inl (hjti k r₂ hk' heq))⟩
        rw [hdb, Bool.eq_false_iff]
        intro hback
        rcases stored_storeHash hback with heq | ⟨hthere, -⟩
        · exact hnot (hjti i r hcall (by rw [heq]; rfl))
        · rw [hgone] at hthere
          cases hthere
      · rw [ht, Option.some.injEq] at ht'
        subst ht'
        refine ⟨?_, fun k r₂ hk' heq => (hE k r₂).mpr (.inl (hsigned k r₂ hk' heq))⟩
        rw [hdb, Bool.eq_false_iff]
        intro hback
        rcases stored_storeHash hback with heq | ⟨-, hother⟩
        · exact hnot (hsigned i r' hcall (by rw [heq]; rfl))
        · exact hother ⟨hsurface, rfl⟩
    · -- A token that was exchanged before is not stored, and so not exchanged again.
      have hgone : ∀ j r', Exchanged calls c j r' → r'.token ≠ some t := by
        intro j r' hold ht'
        have hspent := (hk.spent j r' t hold ht').1
        rw [hstored] at hspent
        cases hspent
      rcases (hE j r₁).mp hj with hold₁ | ⟨rfl, rfl⟩
      · rcases (hE k r₂).mp hk' with hold₂ | ⟨rfl, rfl⟩
        · exact hk.once j k r₁ r₂ t' hold₁ hold₂ h₁ h₂
        · exact absurd (h₁.trans (h₂.symm.trans ht)) (hgone j r₁ hold₁)
      · rcases (hE k r₂).mp hk' with hold₂ | ⟨rfl, rfl⟩
        · exact absurd (h₂.trans (h₁.symm.trans ht)) (hgone k r₂ hold₂)
        · rfl
    · rw [hdb]
      exact revoked_update (fun _ hs => hs) (hk.closed j r' t' ((hR j r').mp hj) ht')

theorem RotationKept.later_next (hk : RotationKept cfg calls c) (hn : c.next ev = some c') :
    Later c.db c'.db := by
  obtain ⟨i, s, s', hs, -, ⟨hdb, -⟩ | ⟨w, -, hpub, -, hdb⟩⟩ := Config.next_trace hn
  · rw [hdb]
    exact Later.refl c.db
  · rcases hk.proving.publishes hs hpub with ⟨call, -, hw⟩
    rw [hdb]
    exact hw.later c.db

theorem RotationKept.reads_next (hk : RotationKept cfg calls c) (hn : c.next ev = some c') {j : ℕ}
    (hdb : Later db c.db)
    (hreads : ∀ s, c.sessions[j]? = some s → ∀ l b, .saw l b ∈ s.trace → Later db b) :
    ∀ s, c'.sessions[j]? = some s → ∀ l b, .saw l b ∈ s.trace → Later db b := by
  have hhere : ∀ (k : ℕ) s, c.sessions[k]? = some s →
      Later db c.db ∧ (k = j → ∀ l b, .saw l b ∈ s.trace → Later db b) :=
    fun k s hs => ⟨hdb, fun hkj => hreads s (hkj ▸ hs)⟩
  have hall := Config.each_next
    (F := fun k now h => Later db now ∧ (k = j → ∀ l b, .saw l b ∈ h → Later db b))
    hhere ?_ hn ?_ ?_
  · exact fun s hs => (hall j s hs).2 rfl
  · rintro k now h l ⟨hnow, hold⟩
    refine ⟨hnow, fun hkj l' b hb => ?_⟩
    rcases List.mem_cons.mp hb with heq | hmem
    · cases heq
      exact hnow
    · exact hold hkj l' b hmem
  · intro k s w _ hs hpub
    rcases hk.proving.publishes hs hpub with ⟨call, -, hw⟩
    refine ⟨hdb.trans (hw.later c.db), fun hkj l b hb => ?_⟩
    rcases List.mem_cons.mp hb with heq | hmem
    · cases heq
    · exact hreads s (hkj ▸ hs) l b hmem
  · rintro i k s w h _ hs hpub - ⟨hnow, hold⟩
    rcases hk.proving.publishes hs hpub with ⟨call, -, hw⟩
    exact ⟨hnow.trans (hw.later c.db), hold⟩

theorem RotationKept.exchanged_read (hk : RotationKept cfg calls c) {i : ℕ}
    (hx : Exchanged calls c i r) : ∃ t b row s, r.token = some t ∧ c.sessions[i]? = some s ∧
      .saw (.session r.surface t.sid) b ∈ s.trace ∧ sessionOf r.surface t.sid b = some row ∧
      row.live r.env.now = true := by
  rcases hx with ⟨hcall, s, hs, hshows⟩
  rcases suffix_of_exchanged hshows with ⟨w, l₁, b₁, l₂, b₂, hsuffix⟩
  rcases hk.proving.wrote hs hsuffix with ⟨call, hcall', hw⟩
  rw [hcall, Option.some.injEq] at hcall'
  subst hcall'
  cases hw with
  | @exchange t a b row sub ht hrow hlive =>
    exact ⟨t, b₁, row, s, ht, hs, hsuffix.subset (by simp), hrow, hlive⟩

theorem RotationKept.refused_token (hk : RotationKept cfg calls c) {i : ℕ}
    (hx : Refused calls c i r) : ∃ t, r.token = some t := by
  rcases hx with ⟨hcall, s, hs, hshows⟩
  rcases suffix_of_refused hshows with ⟨w, l₁, b₁, hsuffix⟩
  rcases hk.proving.wrote hs hsuffix with ⟨call, hcall', hw⟩
  rw [hcall, Option.some.injEq] at hcall'
  subst hcall'
  cases hw with
  | @refuse t b ht hrow => exact ⟨t, ht⟩

theorem rotationKept_start (hfresh : FreshJtis calls db) :
    RotationKept cfg calls (AuthRun.start cfg db calls) := by
  have hnew : ∀ (i : ℕ) s, (AuthRun.start cfg db calls).sessions[i]? = some s → s.trace = [] := by
    intro i s hs
    simp only [AuthRun.start, Config.start, List.getElem?_map, Option.map_map,
      Option.map_eq_some_iff] at hs
    rcases hs with ⟨call, -, rfl⟩
    rfl
  have hnone : ∀ q : AuthTrace → Bool, q [] = false → ∀ i,
      ¬(AuthRun.start cfg db calls).Shows q i := by
    rintro q hq i ⟨s, hs, hshows⟩
    rw [hnew i s hs, hq] at hshows
    cases hshows
  refine ⟨Config.proving_start fun i p hp => ?_, fun i s hs l b hb => ?_,
    fun surface s hs j r hj hjti => ?_, fun i r t hi _ => absurd hi.2 (hnone exchanged rfl i),
    fun i j r r' t hi _ _ _ => absurd hi.2 (hnone exchanged rfl i),
    fun i r t hi _ => absurd hi.2 (hnone refused rfl i)⟩
  · rw [List.getElem?_map, Option.map_eq_some_iff] at hp
    rcases hp with ⟨call, hcall, rfl⟩
    refine wp_mono (fun _ _ hw => ⟨call, hcall, hw⟩) (fun a h t hdone r hr => ?_)
      (fun _ _ _ h => h) _ _ _ (call.wp_prog cfg)
    exact hdone r (Option.some.inj (hcall.symm.trans hr))
  · rw [hnew i s hs] at hb
    cases hb
  · have hfalse := hfresh.2 surface s hs _ (List.mem_of_getElem? hj) r rfl
    rw [hjti] at hfalse
    cases hfalse

theorem distinctJtis_of_fresh (hfresh : FreshJtis calls db) :
    DistinctJtis calls := by
  have hlt : ∀ (i j : ℕ) r r', calls[i]? = some (AuthCall.refresh r) →
      calls[j]? = some (AuthCall.refresh r') → i < j → r.env.jti ≠ r'.env.jti := by
    intro i j r r' hi hj hij
    rcases List.getElem?_eq_some_iff.mp hi with ⟨hi', heqi⟩
    rcases List.getElem?_eq_some_iff.mp hj with ⟨hj', heqj⟩
    have hpair := List.pairwise_iff_getElem.mp hfresh.1 i j hi' hj' hij
    rw [heqi, heqj] at hpair
    exact hpair r rfl r' rfl
  intro i j r r' hi hj heq
  rcases Nat.lt_trichotomy i j with h | h | h
  · exact absurd heq (hlt i j r r' hi hj h)
  · exact h
  · exact absurd heq.symm (hlt j i r' r hj hi h)

/-- Once a replay is refused its session is revoked, and no step exchanges a token of it. -/
theorem RotationKept.replay_closed (hdistinct : DistinctJtis calls) (hk : RotationKept cfg calls c)
    {i : ℕ} (hrefused : Refused calls c i r) (ht : r.refreshToken = some t) (evs : List Event)
    (hg : c.Throughout (ExchangesCurrent calls) evs) (hrun : c.run evs = some c') :
    Revoked c'.db r.surface t.sid = true ∧ ∀ j r' t', Exchanged calls c' j r' →
      r'.refreshToken = some t' → r'.surface = r.surface → t'.sid = t.sid →
        Exchanged calls c j r' := by
  rcases hk.refused_token hrefused with ⟨t₀, ht₀⟩
  obtain rfl : t₀ = t := Option.some.inj ((RefreshCall.token_eq ht₀).1.symm.trans ht)
  have hclosed := Config.run_throughout (fun d : AuthRun => RotationKept cfg calls d ∧
    Refused calls d i r ∧ ∀ j r' t', Exchanged calls d j r' → r'.token = some t' →
      r'.surface = r.surface → t'.sid = t₀.sid → Exchanged calls c j r') ?_ evs c
    ⟨hk, hrefused, fun _ _ _ hx _ _ _ => hx⟩ hg hrun
  · rcases hclosed with ⟨hk', hstill, hno⟩
    refine ⟨hk'.closed i r t₀ hstill ht₀, fun j r' t' hx ht' hsurface hsid => ?_⟩
    rcases hk'.exchanged_read hx with ⟨t₁, -, -, -, ht₁, -⟩
    obtain rfl : t₁ = t' := Option.some.inj ((RefreshCall.token_eq ht₁).1.symm.trans ht')
    exact hno j r' t₁ hx ht₁ hsurface hsid
  · rintro d ev d' ⟨hd, hstill, hno⟩ hguard hn
    refine ⟨hd.next hdistinct hguard hn, ?_⟩
    cases hd.authStep hguard hn with
    | other _ hE hR =>
      exact ⟨(hR i r).mpr hstill, fun j r' t' hx => hno j r' t' ((hE j r').mp hx)⟩
    | refuse _ _ _ _ _ _ hE hR =>
      exact ⟨(hR i r).mpr (.inl hstill), fun j r' t' hx => hno j r' t' ((hE j r').mp hx)⟩
    | exchange k r₁ t₁ _ _ ht₁ _ _ hE hR _ hnone =>
      refine ⟨(hR i r).mpr hstill, fun j r' t' hx ht' hsurface hsid => ?_⟩
      rcases (hE j r').mp hx with hold | ⟨-, rfl⟩
      · exact hno j r' t' hold ht' hsurface hsid
      · obtain rfl : t₁ = t' := Option.some.inj (ht₁.symm.trans ht')
        exact absurd hsid.symm (hnone i r t₀ hstill ht₀ hsurface.symm)

theorem RotationKept.waiting_refused (hdistinct : DistinctJtis calls)
    (hk : RotationKept cfg calls c) {j : ℕ} (hwait : Waiting calls c j r)
    (ht : r.refreshToken = some t) (hrev : Revoked c.db r.surface t.sid = true) (evs : List Event)
    (hg : c.Throughout (ExchangesCurrent calls) evs) (hrun : c.run evs = some c') :
    ¬Exchanged calls c' j r := by
  intro hx
  rcases hwait.2 with ⟨s₀, hs₀, hempty⟩
  have hreads := Config.run_throughout (fun d : AuthRun => RotationKept cfg calls d ∧
    Later c.db d.db ∧ ∀ s, d.sessions[j]? = some s → ∀ l b, .saw l b ∈ s.trace →
      Later c.db b) ?_ evs c ⟨hk, Later.refl c.db, ?_⟩ hg hrun
  · rcases hreads.1.exchanged_read hx with ⟨t₁, b, row, s, ht₁, hs, hsaw, hrow, hlive⟩
    obtain rfl : t₁ = t := Option.some.inj ((RefreshCall.token_eq ht₁).1.symm.trans ht)
    have hrev' := (hreads.2.2 s hs _ b hsaw r.surface t₁.sid).2 hrev
    unfold Revoked at hrev'
    rw [hrow, Option.any_some] at hrev'
    simp only [AuthSession.live, Bool.and_eq_true, Option.isNone_iff_eq_none] at hlive
    rw [hlive.1] at hrev'
    cases hrev'
  · rintro d ev d' ⟨hd, hlater, hold⟩ hguard hn
    exact ⟨hd.next hdistinct hguard hn, hlater.trans (hd.later_next hn),
      hd.reads_next hn hlater hold⟩
  · intro s hs l b hb
    rw [hs₀, Option.some.injEq] at hs
    subst hs
    rw [List.isEmpty_iff.mp hempty] at hb
    cases hb

end Step

/-- **Rotation of refresh tokens.** In every interleaving of refreshes and revocations in which
each new hash replaces the hash of the token presented, on a session on which no replay has been
refused: each token is exchanged once, a refused replay ends its session, and a revoked session
yields nothing to those who come later. -/
theorem refresh_rotates_once (cfg : AuthConfig) (calls : List AuthCall) (db : AuthDb)
    (hfresh : FreshJtis calls db) (evs evs' : List Event) (c c' : AuthRun)
    (hrun : (AuthRun.start cfg db calls).run evs = some c) (hrun' : c.run evs' = some c')
    (hg : (AuthRun.start cfg db calls).Throughout (ExchangesCurrent calls) evs)
    (hg' : c.Throughout (ExchangesCurrent calls) evs') : RotatesOnce calls c c' := by
  have hdistinct := distinctJtis_of_fresh hfresh
  have hk : RotationKept cfg calls c := Config.run_throughout (RotationKept cfg calls)
    (fun _ _ _ hk hg hn => hk.next hdistinct hg hn) evs _ (rotationKept_start hfresh) hg hrun
  have hk' : RotationKept cfg calls c' := Config.run_throughout (RotationKept cfg calls)
    (fun _ _ _ hk hg hn => hk.next hdistinct hg hn) evs' _ hk hg' hrun'
  refine ⟨fun i r hcall pair hanswer => ?_, fun i j r r' t hi hj ht ht' => ?_,
    fun i r t hcall ht hanswer => ?_, fun j r t hwait ht hrev hx => ?_⟩
  · rcases hk'.proving.answered hanswer with ⟨s, hs, hdone⟩
    exact ⟨hcall, s, hs, (hdone r hcall).1 pair rfl⟩
  · rcases hk'.exchanged_read hi with ⟨t₁, -, -, -, ht₁, -⟩
    rcases hk'.exchanged_read hj with ⟨t₂, -, -, -, ht₂, -⟩
    obtain rfl : t₁ = t := Option.some.inj ((RefreshCall.token_eq ht₁).1.symm.trans ht)
    obtain rfl : t₂ = t₁ := Option.some.inj ((RefreshCall.token_eq ht₂).1.symm.trans ht')
    exact hk'.once i j r r' t₂ hi hj ht₁ ht₂
  · rcases hk.proving.answered hanswer with ⟨s, hs, hdone⟩
    exact hk.replay_closed hdistinct ⟨hcall, s, hs, (hdone r hcall).2 rfl⟩ ht evs' hg' hrun'
  · exact hk.waiting_refused hdistinct hwait ht hrev evs' hg' hrun' hx

/-! ## One session of the staff app -/

/-- The token of session 7 with this `jti`. -/
def staffToken (jti : Id) : RefreshToken :=
  { surface := .STAFF, sub := 1, sid := 7, jti, exp := 1000 }

/-- A receptionist who is signed in with the token of `jti` 5. -/
def oneSession : AuthDb where
  hotelStaff := (∅ : Table HotelStaff.id).insert
    { id := 1, propertyId := 1, role := .RECEPTIONIST, mobile := "9895077492" }
  sessions := Function.update (fun _ => ∅) .STAFF ((∅ : Table AuthSession.id).insert
    { id := 7, accountId := 1, refreshTokenHash := .hash (staffToken 5), expiresAt := 1000000 })

/-- A refresh of the session that presents one token and signs another. -/
def staffRefresh (presented signed : Id) : AuthCall :=
  .refresh ⟨.STAFF, { now := 0, jti := signed }, some (staffToken presented)⟩

/-- The first reads the session and its holder, then the second does what `evs` says. -/
def firstWaits (evs : List Event) : List Event := [.step 0, .step 0] ++ evs

theorem freshJtis_oneSession : ∀ presented ∈ [4, 5],
    FreshJtis [staffRefresh 5 8, staffRefresh presented 9] oneSession := by
  intro presented hp
  refine ⟨by simp [staffRefresh, AuthCall.refresh?], fun surface => ?_⟩
  rcases List.mem_pair.mp hp with rfl | rfl
  · cases surface <;> decide
  · cases surface <;> decide

/-- Two refreshes of one token that both compare before either stores are both answered with a
pair; and one that compares before a replay is refused is answered after it. -/
theorem one_token_twice :
    (∀ presented ∈ [4, 5], FreshJtis [staffRefresh 5 8, staffRefresh presented 9] oneSession) ∧
    (∃ c, (AuthRun.start {} oneSession [staffRefresh 5 8, staffRefresh 5 9]).run
        (firstWaits [.step 1, .step 1, .step 0, .step 1]) = some c ∧
      ¬RotatesOnce [staffRefresh 5 8, staffRefresh 5 9] c c) ∧
    ∃ c c', (AuthRun.start {} oneSession [staffRefresh 5 8, staffRefresh 4 9]).run
        (firstWaits [.step 1, .step 1]) = some c ∧ c.run [.step 0] = some c' ∧
      ¬RotatesOnce [staffRefresh 5 8, staffRefresh 4 9] c c' := by
  refine ⟨freshJtis_oneSession, ?_, ?_⟩
  · refine ⟨_, rfl, fun hlaw => ?_⟩
    have hboth := hlaw.once 0 1 _ _ (staffToken 5) ⟨rfl, _, rfl, rfl⟩ ⟨rfl, _, rfl, rfl⟩ rfl rfl
    cases hboth
  · refine ⟨_, _, rfl, rfl, fun hlaw => ?_⟩
    have hclosed := (hlaw.replay 1 _ (staffToken 4) rfl rfl rfl).2
    rcases (hclosed 0 _ (staffToken 5) ⟨rfl, _, rfl, rfl⟩ rfl rfl rfl).2 with ⟨s, hs, hshows⟩
    cases hs
    cases hshows

/-- In turn, the second is refused. -/
theorem second_refused :
    ∃ c, (AuthRun.start {} oneSession [staffRefresh 5 8, staffRefresh 5 9]).run
        (firstWaits [.step 0, .step 1, .step 1]) = some c ∧
      c.answer 1 = some (.error .refreshTokenMismatch) ∧
      RotatesOnce [staffRefresh 5 8, staffRefresh 5 9] c c := by
  refine ⟨_, rfl, rfl, ?_⟩
  exact refresh_rotates_once {} _ oneSession (freshJtis_oneSession 5 (by simp))
    (firstWaits [.step 0, .step 1, .step 1]) [] _ _ rfl rfl (by decide +kernel) (by decide +kernel)

end Travelo
