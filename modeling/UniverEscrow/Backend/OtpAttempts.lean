import UniverEscrow.Backend.HandshakeLifecycle

/-!
# Guessing a one-time password

A wrong password throws inside the transaction, which rolls back: nothing is written, so nothing
counts the attempts.
-/

namespace UniverEscrow.Backend

open UniverEscrow.Js UniverEscrow.Merkle UniverEscrow.Lib

/-- A call of `verifyAndRelease` with its clock. -/
structure OtpAttempt where
  nowMs : ℤ
  input : VerifyAndReleaseInput

def afterAttempt (sha256 : Sha256) (handshakes : Handshakes) (attempt : OtpAttempt) : Handshakes :=
  match verifyAndRelease sha256 attempt.nowMs attempt.input handshakes with
  | .ok (after, _) => after
  | .error _ => handshakes

/-- The attempt brings the handshake a well-formed password that is not the generated one. -/
def isWrongGuess (handshakeId otp : String) (attempt : OtpAttempt) : Bool :=
  match assertNonEmptyString attempt.input.handshakeId "handshakeId",
    wellFormedOtp attempt.input.userProvidedOtp with
  | .ok id, .ok userOtp => id = handshakeId && userOtp ≠ otp
  | _, _ => false

/-- The table, and whether there has been a wrong guess. -/
structure GuessedHandshakes where
  table : Handshakes
  guessed : Bool

def afterGuess (sha256 : Sha256) (handshakeId otp : String) (s : GuessedHandshakes)
    (attempt : OtpAttempt) : GuessedHandshakes where
  table := afterAttempt sha256 s.table attempt
  guessed := s.guessed || isWrongGuess handshakeId otp attempt

/-- Once there has been a wrong guess the handshake is failed. -/
def FailedByGuess (handshakeId : String) (s : GuessedHandshakes) : Prop :=
  s.guessed = true → ∃ row, s.table.get? handshakeId = some row ∧ row.status = .failed

/-- The handshake is there and has not failed. -/
def NotFailed (handshakeId : String) (handshakes : Handshakes) : Prop :=
  ∃ row, handshakes.get? handshakeId = some row ∧ row.status ≠ .failed

variable {sha256 : Sha256} {handshakeId otp : String} {handshakes : Handshakes}

/-- An attempt changes nothing, or releases the handshake it names. -/
theorem afterAttempt_cases (sha256 : Sha256) (handshakes : Handshakes) (attempt : OtpAttempt) :
    afterAttempt sha256 handshakes attempt = handshakes ∨
      ∃ request row, otpReleaseRequest sha256 attempt.input = .ok request ∧
        Releasable request handshakes row ∧
        afterAttempt sha256 handshakes attempt = handshakes.set request.handshakeId
          (releasedByOtp request row attempt.nowMs row) := by
  rw [afterAttempt]
  cases hrelease : verifyAndRelease sha256 attempt.nowMs attempt.input handshakes with
  | error message => exact .inl rfl
  | ok result =>
      obtain ⟨after, row'⟩ := result
      obtain ⟨request, row, hrequest, hreleasable, rfl, rfl⟩ := verifyAndRelease_eq_ok.1 hrelease
      exact .inr ⟨request, row, hrequest, hreleasable, rfl⟩

theorem notFailed_attempt (h : NotFailed handshakeId handshakes) (attempt : OtpAttempt) :
    NotFailed handshakeId (afterAttempt sha256 handshakes attempt) := by
  obtain hsame | ⟨request, row, -, -, hset⟩ := afterAttempt_cases sha256 handshakes attempt
  · rwa [hsame]
  · obtain ⟨before, hbefore, hstatus⟩ := h
    rw [NotFailed, hset, OrderedMap.get?_set]
    split_ifs
    · exact ⟨_, rfl, by simp [releasedByOtp]⟩
    · exact ⟨before, hbefore, hstatus⟩

/-- No attempt fails a handshake, so a guess that has been made is missing its mark. -/
theorem failedByGuess_iff {s : GuessedHandshakes} (h : NotFailed handshakeId s.table) :
    FailedByGuess handshakeId s ↔ s.guessed = false := by
  obtain ⟨row, hrow, hstatus⟩ := h
  rw [← Bool.not_eq_true]
  constructor
  · intro hfailed hguessed
    obtain ⟨row', hrow', hstatus'⟩ := hfailed hguessed
    rw [hrow] at hrow'
    exact hstatus (Option.some.inj hrow' ▸ hstatus')
  · intro hnot hguessed
    exact absurd hguessed hnot

/-- After the first wrong guess at the password of a locked handshake it is failed for good,
exactly where there is no wrong guess. -/
theorem wrong_guess_fails_iff (sha256 : Sha256) (handshakeId otp : String) (handshakes : Handshakes)
    (handshake : PayoutHandshake) (hfound : handshakes.get? handshakeId = some handshake)
    (hlocked : handshake.status = .locked) (attempts : List OtpAttempt) :
    Run.Throughout (afterGuess sha256 handshakeId otp) (FailedByGuess handshakeId)
        ⟨handshakes, false⟩ attempts ↔
      ∀ attempt ∈ attempts, isWrongGuess handshakeId otp attempt = false := by
  have hforall : Run.EachStep (afterGuess sha256 handshakeId otp)
      (fun _ attempt => isWrongGuess handshakeId otp attempt = false) ⟨handshakes, false⟩ attempts ↔
      ∀ attempt ∈ attempts, isWrongGuess handshakeId otp attempt = false :=
    Run.eachStep_iff_forall
  rw [← hforall]
  have hinit : NotFailed handshakeId handshakes := ⟨handshake, hfound, by simp [hlocked]⟩
  refine Run.throughout_iff_eachStep (fun s => NotFailed handshakeId s.table)
    (fun s attempt h => notFailed_attempt h attempt) ?_ hinit fun h => by cases h
  intro s attempt hinv hfailed
  have hguessed := (failedByGuess_iff hinv).1 hfailed
  rw [failedByGuess_iff (s := afterGuess sha256 handshakeId otp s attempt)
    (notFailed_attempt hinv attempt)]
  simp [afterGuess, hguessed]

/-! ## Any number of guesses -/

/-- The attempt is well-formed up to its password, whose digest is not the stored one. -/
def MissesCode (sha256 : Sha256) (handshakeId codeHash : String) (attempt : OtpAttempt) : Prop :=
  ∀ request, otpReleaseRequest sha256 attempt.input = .ok request →
    request.handshakeId = handshakeId ∧ request.userOtpHash ≠ codeHash

theorem afterAttempt_of_missesCode {handshake : PayoutHandshake} {codeHash : String}
    (hfound : handshakes.get? handshakeId = some handshake)
    (hcode : handshake.handshakeCodeHash = some codeHash) {attempt : OtpAttempt}
    (hmisses : MissesCode sha256 handshakeId codeHash attempt) :
    afterAttempt sha256 handshakes attempt = handshakes := by
  obtain hsame | ⟨request, row, hrequest, hreleasable, -⟩ :=
    afterAttempt_cases sha256 handshakes attempt
  · exact hsame
  · obtain ⟨hid, hne⟩ := hmisses request hrequest
    have hrow := hreleasable.found
    rw [hid, hfound] at hrow
    have hhash := hreleasable.code
    rw [← Option.some.inj hrow, hcode] at hhash
    exact absurd (Option.some.inj hhash).symm hne

/-- However many attempts miss the code, the table is what it was: the next one is as good as the
first. -/
theorem run_of_missesCode {handshake : PayoutHandshake} {codeHash : String}
    (hfound : handshakes.get? handshakeId = some handshake)
    (hcode : handshake.handshakeCodeHash = some codeHash) {attempts : List OtpAttempt}
    (hmisses : ∀ attempt ∈ attempts, MissesCode sha256 handshakeId codeHash attempt) :
    Run.run (afterAttempt sha256) handshakes attempts = handshakes := by
  induction attempts with
  | nil => rfl
  | cons attempt attempts ih =>
      rw [Run.run_cons, afterAttempt_of_missesCode hfound hcode (hmisses attempt (by simp))]
      exact ih fun later hlater => hmisses later (by simp [hlater])

/-! ### A sample -/

def otpAttempt (otp idempotencyKey : String) : OtpAttempt :=
  ⟨1767225600000, otpInput otp idempotencyKey⟩

/-- The status of the sample's handshake after attempts. -/
def statusAfterAttempts (attempts : List OtpAttempt) : Option PayoutHandshakeStatus :=
  ((Run.run (afterAttempt passwordSha256) sampleHandshakes attempts).get? "hs_u-1").map
    PayoutHandshake.status

theorem isSome_sampleHandshake : (sampleHandshakes.get? "hs_u-1").isSome = true := by
  decide +kernel

def sampleHandshake : PayoutHandshake :=
  (sampleHandshakes.get? "hs_u-1").get isSome_sampleHandshake

theorem get?_sampleHandshakes : sampleHandshakes.get? "hs_u-1" = some sampleHandshake :=
  (Option.some_get isSome_sampleHandshake).symm

theorem wrong_guess_fails_iff_sample :
    Run.Throughout (afterGuess passwordSha256 "hs_u-1" "123456") (FailedByGuess "hs_u-1")
        ⟨sampleHandshakes, false⟩ [otpAttempt "123456" "key-1"] ↔
      ∀ attempt ∈ [otpAttempt "123456" "key-1"],
        isWrongGuess "hs_u-1" "123456" attempt = false :=
  wrong_guess_fails_iff passwordSha256 "hs_u-1" "123456" sampleHandshakes sampleHandshake
    get?_sampleHandshakes (by decide +kernel) [otpAttempt "123456" "key-1"]

/-- Two wrong guesses leave the handshake locked, and the third attempt releases it. -/
theorem guessing_goes_on :
    isWrongGuess "hs_u-1" "123456" (otpAttempt "000000" "key-1") = true ∧
      statusAfterAttempts [otpAttempt "000000" "key-1", otpAttempt "000001" "key-1"] =
        some .locked ∧
      statusAfterAttempts [otpAttempt "000000" "key-1", otpAttempt "000001" "key-1",
        otpAttempt "123456" "key-1"] = some .released ∧
      ¬ Run.Throughout (afterGuess passwordSha256 "hs_u-1" "123456") (FailedByGuess "hs_u-1")
        ⟨sampleHandshakes, false⟩ [otpAttempt "000000" "key-1"] := by
  have hguess : isWrongGuess "hs_u-1" "123456" (otpAttempt "000000" "key-1") = true := by
    decide +kernel
  refine ⟨hguess, by decide +kernel, by decide +kernel, fun h => ?_⟩
  have hlocked : statusAfterAttempts [otpAttempt "000000" "key-1"] = some .locked := by
    decide +kernel
  obtain ⟨row, hrow, hstatus⟩ := h.2 (by simp [afterGuess, hguess])
  have hfailed : statusAfterAttempts [otpAttempt "000000" "key-1"] = some .failed := by
    have hafter : (Run.run (afterAttempt passwordSha256) sampleHandshakes
        [otpAttempt "000000" "key-1"]).get? "hs_u-1" = some row := hrow
    rw [statusAfterAttempts, hafter, Option.map_some, hstatus]
  rw [hlocked] at hfailed
  cases hfailed

end UniverEscrow.Backend
