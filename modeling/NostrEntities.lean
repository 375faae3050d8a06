import NostrEntities.Main
import NostrEntities.Proofs.Bech32.Groups
import NostrEntities.Proofs.Bech32.LetterCase
import NostrEntities.Proofs.Entity.Accounting
import NostrEntities.Proofs.Entity.Detection
import NostrEntities.Proofs.Entity.LayoutRoundTrip
import NostrEntities.Proofs.Entity.Limits
import NostrEntities.Proofs.Entity.Reordering
import NostrEntities.Proofs.Entity.Required
import NostrEntities.Proofs.Entity.Secrecy
import NostrEntities.Proofs.Guarded.Readers
import NostrEntities.Proofs.HexForm.Normal
import NostrEntities.Proofs.Record.Diagnosis
import NostrEntities.Proofs.Witness.Framings
import NostrEntities.Session
import NostrEntities.Proofs.Hex.Diagnosis
import NostrEntities.Proofs.Entity.Causes
import NostrEntities.Proofs.Bech32.Remainder
import NostrEntities.Proofs.Guarded.Remainder
import NostrEntities.Proofs.Guarded.Completion
import NostrEntities.Proofs.Hex.Order
import NostrEntities.Proofs.Key.Curve
import NostrEntities.Proofs.Key.CurveText
import NostrEntities.Proofs.HexForm.Json
import NostrEntities.Proofs.Cli.Lossless
import NostrEntities.Proofs.Json.Printer
import NostrEntities.Proofs.Session
