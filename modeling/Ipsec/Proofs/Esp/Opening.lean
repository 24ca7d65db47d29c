import Ipsec.Esp.Association

/-!
# How taking a datagram apart ends

`Association.decapsulate` puts a datagram through a row of checks. `Opened` lists where it can stop,
each end with the checks passed before it, so that facts about the receiving side are proved by
cases on it. A datagram that passes as far as the tag is `Authentic`. Only an accepted one moves the
number that is expected next, and it moves it behind its own (`Opened.nextInbound`).
-/

namespace Ipsec

/-- Reading a packet fails with an error that names a part of it. -/
theorem Ipv4.Packet.eq_malformed {data : Bytes} {e : EspError} (h : ofBytes data = .error e) :
    ∃ part, e = .malformed part := by
  unfold ofBytes at h
  split at h
  · exact ⟨_, (Except.error.inj h).symm⟩
  · split at h
    · exact ⟨_, (Except.error.inj h).symm⟩
    · split at h
      · exact ⟨_, (Except.error.inj h).symm⟩
      · cases h

namespace Esp

/-! ## Frames and tags -/

/-- A datagram can be framed exactly if there is room for header and tag. -/
theorem Datagram.ofBytes_isOk (tagLength : Nat) (data : Bytes) :
    (∃ d, ofBytes tagLength data = .ok d) ↔ headerLength + tagLength ≤ data.length := by
  unfold ofBytes
  split
  · split
    all_goals
      simp only [headerLength, List.length_cons, reduceCtorEq, exists_false, Except.ok.injEq,
        exists_eq', true_iff, false_iff]
      omega
  · next hshort =>
    simp only [reduceCtorEq, exists_false, false_iff, headerLength]
    intro hlength
    match data with
    | a :: b :: c :: d :: e :: f :: g :: h :: rest => exact hshort a b c d e f g h rest rfl
    | [] | [_] | [_, _] | [_, _, _] | [_, _, _, _] | [_, _, _, _, _] | [_, _, _, _, _, _]
    | [_, _, _, _, _, _, _] =>
      simp only [List.length_cons, List.length_nil] at hlength
      omega

/-- Framing fails for lack of bytes only. -/
theorem Datagram.eq_truncated {tagLength : Nat} {data : Bytes} {e : EspError}
    (h : ofBytes tagLength data = .error e) : e = .truncated data.length := by
  unfold ofBytes at h
  split at h
  · split at h
    · exact (Except.error.inj h).symm
    · cases h
  · exact (Except.error.inj h).symm

/-- Decrypting fails with an error of its own. -/
theorem Suite.eq_decrypt_of_decrypt {s : Suite} {payload : Bytes} {e : EspError}
    (h : s.decrypt payload = .error e) : ∃ reason, e = .decrypt reason := by
  unfold decrypt at h
  rcases hdecipher : s.decipher payload with e' | body
  · obtain rfl : e' = e := by simpa [hdecipher, bind, Except.bind] using h
    unfold decipher at hdecipher
    split at hdecipher
    · exact ⟨_, (Except.error.inj hdecipher).symm⟩
    · split at hdecipher
      · exact ⟨_, (Except.error.inj hdecipher).symm⟩
      · split at hdecipher
        · cases hdecipher
        · exact ⟨_, (Except.error.inj hdecipher).symm⟩
  · have hpadding : unpadded body = .error e := by simpa [hdecipher, bind, Except.bind] using h
    unfold unpadded at hpadding
    split at hpadding
    · split at hpadding
      · cases hpadding
      · exact ⟨_, (Except.error.inj hpadding).symm⟩
    · exact ⟨_, (Except.error.inj hpadding).symm⟩

/-- A message verifies exactly if it ends in the tag of what stands before the tag. -/
theorem Suite.verifyTag_iff (s : Suite) (message : Bytes) :
    s.verifyTag message ↔ tagLength ≤ message.length ∧
      message.drop (message.length - tagLength) =
        s.tag (message.take (message.length - tagLength)) := by
  simp [verifyTag]

namespace Association

/-! ## Outcomes -/

/-- A datagram that could be framed passes the checks up to that of its tag. -/
structure Authentic (a : Association) (data : Bytes) (c : Channel) (d : Datagram) : Prop where
  framed : Datagram.ofBytes Suite.tagLength data = .ok d
  spi : d.spi = a.spiIn
  recent : c.nextInbound ≤ d.sequence.toNat
  tag : a.inbound.verifyTag data

/-- How taking a datagram apart ends. -/
inductive Opened (a : Association) (capture : Bool) (data : Bytes) (c : Channel) :
    Opening → Prop where
  /-- It is too short. -/
  | unframed {e : EspError} (hframe : Datagram.ofBytes Suite.tagLength data = .error e) :
      Opened a capture data c ⟨.error e, c, []⟩
  /-- It bears another index. -/
  | foreign {d : Datagram} (hframe : Datagram.ofBytes Suite.tagLength data = .ok d)
      (hspi : d.spi ≠ a.spiIn) :
      Opened a capture data c ⟨.error (.spiMismatch a.spiIn d.spi), c, []⟩
  /-- Its number is below the expected one. -/
  | stale {d : Datagram} (hframe : Datagram.ofBytes Suite.tagLength data = .ok d)
      (hspi : d.spi = a.spiIn) (hstale : d.sequence.toNat < c.nextInbound) :
      Opened a capture data c ⟨.error (.staleSequence c.nextInbound d.sequence), c, []⟩
  /-- Its tag is wrong. -/
  | forged {d : Datagram} (hframe : Datagram.ofBytes Suite.tagLength data = .ok d)
      (hspi : d.spi = a.spiIn) (hrecent : c.nextInbound ≤ d.sequence.toNat)
      (htag : ¬a.inbound.verifyTag data) :
      Opened a capture data c ⟨.error .checksumFailure, c, a.tagNotices data⟩
  /-- Its payload cannot be decrypted. -/
  | undecryptable {d : Datagram} {e : EspError} (hauthentic : a.Authentic data c d)
      (hdecrypt : a.inbound.decrypt d.payload = .error e) :
      Opened a capture data c ⟨.error e, c, []⟩
  /-- Its payload is declared to be no packet. -/
  | unsupported {d : Datagram} {plain : Bytes} {protocol : UInt8}
      (hauthentic : a.Authentic data c d)
      (hdecrypt : a.inbound.decrypt d.payload = .ok (plain, protocol))
      (hprotocol : protocol ≠ Protocol.ipv4) :
      Opened a capture data c ⟨.error (.unsupportedPayload protocol), c, []⟩
  /-- Its payload cannot be read as a packet. -/
  | malformed {d : Datagram} {plain : Bytes} {e : EspError} (hauthentic : a.Authentic data c d)
      (hdecrypt : a.inbound.decrypt d.payload = .ok (plain, Protocol.ipv4))
      (hread : Ipv4.Packet.ofBytes plain = .error e) :
      Opened a capture data c ⟨.error e, c.capture capture, []⟩
  /-- It is accepted. -/
  | accepted {d : Datagram} {plain : Bytes} {packet : Ipv4.Packet}
      (hauthentic : a.Authentic data c d)
      (hdecrypt : a.inbound.decrypt d.payload = .ok (plain, Protocol.ipv4))
      (hread : Ipv4.Packet.ofBytes plain = .ok packet) :
      Opened a capture data c
        ⟨.ok packet, { c.capture capture with nextInbound := d.sequence.toNat + 1 },
          a.sequenceNotices d.sequence⟩

/-- Taking a datagram apart ends in one of the listed ways. -/
theorem decapsulate_ends (a : Association) (capture : Bool) (data : Bytes) (c : Channel) :
    a.Opened capture data c (a.decapsulate capture data c) := by
  unfold decapsulate
  split
  · next hframe => exact .unframed hframe
  · next d hframe =>
    split
    · next hspi => exact .foreign hframe hspi
    · next hspi =>
      have hspi := Decidable.not_not.1 hspi
      split
      · next hstale => exact .stale hframe hspi hstale
      · next hrecent =>
        have hrecent := Nat.le_of_not_lt hrecent
        split
        · next htag => exact .forged hframe hspi hrecent htag
        · next htag =>
          have hauthentic : a.Authentic data c d :=
            ⟨hframe, hspi, hrecent, Decidable.not_not.1 htag⟩
          split
          · next hdecrypt => exact .undecryptable hauthentic hdecrypt
          · next plain protocol hdecrypt =>
            split
            · next hprotocol => exact .unsupported hauthentic hdecrypt hprotocol
            · next hprotocol =>
              obtain rfl := Decidable.not_not.1 hprotocol
              simp only
              split
              · next hread => exact .malformed hauthentic hdecrypt hread
              · next hread => exact .accepted hauthentic hdecrypt hread

/-! ## The expected number -/

/-- An accepted datagram moves the expected number behind its own, any other leaves it. -/
theorem Opened.nextInbound {a : Association} {capture : Bool} {data : Bytes} {c : Channel}
    {opening : Opening} (h : a.Opened capture data c opening) :
    (∀ packet, opening.result = .ok packet →
      ∃ d, a.Authentic data c d ∧ opening.channel.nextInbound = d.sequence.toNat + 1) ∧
      ∀ e, opening.result = .error e → opening.channel.nextInbound = c.nextInbound := by
  cases h with
  | malformed => exact ⟨nofun, fun _ _ => Channel.nextInbound_capture c capture⟩
  | accepted hauthentic => exact ⟨fun _ _ => ⟨_, hauthentic, rfl⟩, nofun⟩
  | _ => exact ⟨nofun, fun _ _ => rfl⟩

/-- Taking a datagram apart uses no number. -/
theorem Opened.lastOutbound {a : Association} {capture : Bool} {data : Bytes} {c : Channel}
    {opening : Opening} (h : a.Opened capture data c opening) :
    opening.channel.lastOutbound = c.lastOutbound := by
  cases h with
  | malformed => exact Channel.lastOutbound_capture c capture
  | accepted => exact Channel.lastOutbound_capture c capture
  | _ => rfl

/-- Taking a datagram apart takes no initialisation vector. -/
theorem Opened.vectors {a : Association} {capture : Bool} {data : Bytes} {c : Channel}
    {opening : Opening} (h : a.Opened capture data c opening) :
    opening.channel.vectors = c.vectors := by
  cases h with
  | malformed => exact Channel.vectors_capture c capture
  | accepted => exact Channel.vectors_capture c capture
  | _ => rfl

/-- Taking a datagram apart reports a wrong index only where the index is wrong. -/
theorem Opened.foreign_of_mismatch {a : Association} {capture : Bool} {data : Bytes} {c : Channel}
    {opening : Opening} (h : a.Opened capture data c opening) {expected actual : UInt32}
    (hresult : opening.result = .error (.spiMismatch expected actual)) :
    ∃ d, Datagram.ofBytes Suite.tagLength data = .ok d ∧ d.spi ≠ a.spiIn := by
  cases h with
  | unframed hframe =>
    obtain rfl := Except.error.inj hresult
    cases Datagram.eq_truncated hframe
  | foreign hframe hspi => exact ⟨_, hframe, hspi⟩
  | undecryptable _ hdecrypt =>
    obtain rfl := Except.error.inj hresult
    obtain ⟨reason, hreason⟩ := Suite.eq_decrypt_of_decrypt hdecrypt
    cases hreason
  | malformed _ _ hread =>
    obtain rfl := Except.error.inj hresult
    obtain ⟨part, hpart⟩ := Ipv4.Packet.eq_malformed hread
    cases hpart
  | _ => cases hresult

/-- A datagram with the right index and a number below the expected one is stale, whatever else it
holds. -/
theorem decapsulate_stale {a : Association} (capture : Bool) {data : Bytes} {c : Channel}
    {d : Datagram} (hframe : Datagram.ofBytes Suite.tagLength data = .ok d)
    (hspi : d.spi = a.spiIn) (hstale : d.sequence.toNat < c.nextInbound) :
    a.decapsulate capture data c = ⟨.error (.staleSequence c.nextInbound d.sequence), c, []⟩ := by
  simp [decapsulate, hframe, hspi, hstale]

end Association

end Esp

end Ipsec
