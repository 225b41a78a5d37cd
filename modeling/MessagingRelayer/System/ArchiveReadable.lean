import MessagingRelayer.Services.ArchiveFormat
import MessagingRelayer.System.WellFormed

/-!
# Reading the archive

Whoever takes a patch from the archive and reads it with the format of the relayer has the message
that was put there, and the tags it was uploaded with say the same (`archive_readable`).
-/

set_option autoImplicit false
set_option relaxedAutoImplicit false

namespace MessagingRelayer

open Foundation

section Readable

variable {relayer : Relayer} {past : List Action} {before : System} {patch : Patch}

/-- A patch of the archive is one of an upload that was answered. -/
theorem uploaded_of_run (hrun : relayer.run past = some before) (hmem : patch ∈ before.archive) :
    ∃ pass messages response, Happened relayer.step .init past (Uploads pass messages response) ∧
      patch ∈ pass.patches messages := by
  refine history_induction (fun past reached ↦ ∀ patch ∈ reached.archive,
    ∃ pass messages response, Happened relayer.step .init past (Uploads pass messages response) ∧
      patch ∈ pass.patches messages) ?_ ?_ hrun patch hmem
  · intro patch hmem
    simp [System.init] at hmem
  · intro past before action after hpast hearlier hstep patch hmem
    have hold (hbefore : patch ∈ before.archive) : ∃ pass messages response,
        Happened relayer.step .init (past ++ [action]) (Uploads pass messages response) ∧
          patch ∈ pass.patches messages := by
      obtain ⟨pass, messages, response, huploads, hpatch⟩ := hearlier patch hbefore
      exact ⟨pass, messages, response, huploads.append [action], hpatch⟩
    rcases worker_of_step hstep with ⟨-, hsame⟩ | hmove
    · exact hold (hsame ▸ hmem)
    · generalize after.worker = worker at hmove
      generalize after.archive = archive at hmove hmem
      cases hmove with
      | @uploaded pass messages response hphase =>
        rcases List.mem_append.mp hmem with hbefore | hnew
        · exact hold hbefore
        · exact ⟨pass, messages, response,
            (happened_concat_iff hpast).mpr (Or.inr ⟨rfl, hphase⟩), hnew⟩
      | _ => exact hold hmem

/-- Assumes: fewer than `2 ^ 63` steps, and libraries that read back the identifier and the times of
the message. A patch of the archive is read back as the message it was made of; and it was uploaded
with tags that agree with that message, its order number included. -/
theorem archive_readable {times : TimeFormat} (hjson : relayer.libs.LawfulJson)
    (hrun : relayer.run past = some before) (hlength : past.length < 2 ^ 63)
    (hmem : patch ∈ before.archive) (htexts : patch.message.TextsRead relayer.libs times) :
    Message.fromJson relayer.libs times (patch.message.toJson times) = .ok patch.message ∧
    ∃ pass messages response metadata,
      Happened relayer.step .init past (Uploads pass messages response) ∧
      (metadata, patch) ∈ (pass.metadata messages).zip (pass.patches messages) ∧
      metadata.Describes patch ∧
      ∃ text order, metadata.tags.lookup "order" = some text ∧ parseI64 text = some order ∧
        patch.message.order = some order := by
  obtain ⟨hformed, hbound⟩ := wellFormed_of_archive hjson hrun hmem
  obtain ⟨order, horder, hpositive⟩ := hformed.order
  have hrange : -2 ^ 63 ≤ order ∧ order < 2 ^ 63 := by
    have hle := hbound order horder
    omega
  refine ⟨Message.fromJson_toJson htexts hformed.keyVersion fun found hfound ↦ ?_, ?_⟩
  · rw [horder] at hfound
    exact Option.some.inj hfound ▸ hrange
  · obtain ⟨pass, messages, response, huploads, hpatch⟩ := uploaded_of_run hrun hmem
    obtain ⟨metadata, hzip, hdescribes⟩ := describes_of_mem_patches hpatch
    have htext := hdescribes.order
    rw [horder] at htext
    exact ⟨pass, messages, response, metadata, huploads, hzip, hdescribes, toString order, order,
      htext, parseI64_toString hrange, horder⟩

/-! ### The patch of the client's message -/

/-- The texts of the two times of the client's message, which are one. -/
def sampleTimes : TimeFormat where
  write time := if time = sampleClock 1 then "2023-11-14T22:13:20.000000001Z" else ""
  read text :=
    if text = "2023-11-14T22:13:20.000000001Z" then .ok (sampleClock 1)
    else .error "premature end of input"

/-- The patch of the client's message is read back. -/
theorem archive_readable_sampleUpload :
    Message.fromJson sampleLibs sampleTimes ((Pass.pending.copy sampleMessage).toJson sampleTimes) =
      .ok (Pass.pending.copy sampleMessage) := by
  have hmem : ⟨patchIdentifier sampleMessageId, Pass.pending.copy sampleMessage⟩ ∈
      sampleUploaded.archive := List.mem_singleton_self _
  have htexts : (Pass.pending.copy sampleMessage).TextsRead sampleLibs sampleTimes :=
    ⟨uuidParseStr_sampleMessageId, rfl, rfl⟩
  exact (archive_readable lawfulJson_sampleLibs run_sampleUpload (by decide) hmem htexts).1

end Readable

end MessagingRelayer
