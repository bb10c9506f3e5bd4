import SlackCourier.Disk
import SlackCourier.Main
import SlackCourier.Multipart.Reader
import SlackCourier.Proofs.CommandLine.Parse
import SlackCourier.Proofs.Multipart.RoundTrip
import SlackCourier.Proofs.Noninterference
import SlackCourier.Proofs.Outcome
import SlackCourier.Proofs.Http.Classification
import SlackCourier.Proofs.Multipart.Sharing
import SlackCourier.Proofs.Json.Shape
import SlackCourier.Proofs.Json.Spelling
import SlackCourier.Proofs.Json.Scalars
import SlackCourier.Proofs.Json.Reading
import SlackCourier.Proofs.Payload
import SlackCourier.Proofs.Piped
import SlackCourier.Proofs.Building
import SlackCourier.Proofs.Omission
import SlackCourier.Proofs.Replies
import SlackCourier.Proofs.Resolution
import SlackCourier.Proofs.FilePath
import SlackCourier.Proofs.LocalFile
import SlackCourier.Proofs.Multipart.History
import SlackCourier.Proofs.Multipart.Names
import SlackCourier.Proofs.Json.Arrangement
import SlackCourier.Proofs.Blocks
