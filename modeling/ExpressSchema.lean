import ExpressSchema.Json.Schema
import ExpressSchema.Load
import ExpressSchema.Lookup
import ExpressSchema.Proofs.Closed.Run
import ExpressSchema.Proofs.Comments.Scan
import ExpressSchema.Proofs.Comments.Stripped
import ExpressSchema.Proofs.Forward.Agreement
import ExpressSchema.Proofs.Inheritance.Loop
import ExpressSchema.Proofs.Loading.Layout
import ExpressSchema.Proofs.Names.Issued
import ExpressSchema.Proofs.Names.NormalForm
import ExpressSchema.Proofs.Pairing.Mutual
import ExpressSchema.Proofs.Pairing.Outcome
import ExpressSchema.Proofs.Printing.RoundTrip
import ExpressSchema.Proofs.Properties.History
import ExpressSchema.Proofs.Reading.Closing
import ExpressSchema.Proofs.Reading.ClosingSigns
import ExpressSchema.Proofs.Reading.Confined
import ExpressSchema.Proofs.Reading.Control
import ExpressSchema.Proofs.Resolution.Kept
import ExpressSchema.Proofs.Resolution.Materialized
import ExpressSchema.Proofs.Selects.Outcome
import ExpressSchema.Proofs.Siblings.Spelling
import ExpressSchema.Proofs.Storage.Resumed
import ExpressSchema.Proofs.Work.Loading
