import Radius.Config.File
import Radius.Proofs.Json
import Radius.Text.Utf8.RoundTrip

/-!
# `Radius.Proofs.Config.File`: configurations survive their files

The members of a written client fill a draft of it one field after the other
(`Client.readsAs_written`), and so do the members of a written configuration
(`Config.readsAs_written`). What a file gives back is therefore the very configuration that was
written to it, and only validation stands between the two (`Config.ofFile_toFile`).
-/

set_option autoImplicit false

namespace Radius

open Json

/-- A written client is read back. -/
theorem Client.readsAs_written (client : Client) :
    ReadsAs Client.reader client.written client := by
  -- One step for each field, in the order in which they are written.
  have hfills : Fills Client.fields {} [
      ("address", writeString client.address),
      ("secret", writeString client.secret),
      ("name", writeOptional client.name),
      ("enabled", writeFlag client.enabled)]
      ⟨some client.address, some client.secret, some client.name, some client.enabled⟩ :=
    .cons rfl ((readsAs_string client.address).map _) <|
    .cons rfl ((readsAs_string client.secret).map _) <|
    .cons rfl ((readsAs_optional client.name).map _) <|
    .cons rfl ((readsAs_flag client.enabled).map _) <|
    .nil _
  have hfinish : Client.Draft.finish
      ⟨some client.address, some client.secret, some client.name, some client.enabled⟩
      = some client := rfl
  exact readsAs_record hfills hfinish 2

/-- The written clients of a configuration are read back one by one. -/
theorem Client.forall₂_readsAs_written (clients : List Client) :
    List.Forall₂ (ReadsAs Client.reader) (clients.map Client.written) clients := by
  induction clients with
  | nil => exact .nil
  | cons client clients ih => exact .cons client.readsAs_written ih

namespace Config

/-- A written configuration is read back, whether it is valid or not. -/
theorem readsAs_written (config : Config) : ReadsAs reader config.written config := by
  have hclients := readsAs_array (Client.forall₂_readsAs_written config.clients) 1
  have hfills : Fills fields {} [
      ("secret", writeString config.secret),
      ("clients", writeArray 1 (config.clients.map Client.written)),
      ("strict_length_check", writeFlag config.strictLengthCheck),
      ("log_level", writeOptional config.logLevel)]
      ⟨some config.secret, some config.clients, some config.strictLengthCheck,
        some config.logLevel⟩ :=
    .cons rfl ((readsAs_string config.secret).map _) <|
    .cons rfl (hclients.map _) <|
    .cons rfl ((readsAs_flag config.strictLengthCheck).map _) <|
    .cons rfl ((readsAs_optional config.logLevel).map _) <|
    .nil _
  have hfinish : (fun draft : Draft => some draft.finish)
      ⟨some config.secret, some config.clients, some config.strictLengthCheck,
        some config.logLevel⟩ = some config := rfl
  exact readsAs_record hfills hfinish 0

/-- A file gives back the configuration that was written to it if that is valid, and the problem
that validation finds in it if it is not. -/
theorem ofFile_toFile (config : Config) :
    ofFile config.toFile =
      match config.validate with
      | .ok () => .ok config
      | .error problem => .error (.invalid problem) := by
  have hread : read reader config.written = .ok config := read_of_readsAs config.readsAs_written
  -- The bytes are text again, and the text is the configuration. What is left is the check.
  rw [ofFile, toFile, Utf8.decode?_encode]
  simp only [hread, validate]
  cases config.problem? with
  | none => rfl
  | some problem => rfl

end Config

end Radius
