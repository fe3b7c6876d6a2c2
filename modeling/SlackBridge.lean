import SlackBridge.Command.Arguments
import SlackBridge.Command.Doctor
import SlackBridge.Command.Listing
import SlackBridge.Command.Outcome
import SlackBridge.Command.Run
import SlackBridge.Command.WebhookUrl
import SlackBridge.Crypto.Hmac
import SlackBridge.Crypto.Sha256
import SlackBridge.Dialogue.Bot
import SlackBridge.Dialogue.Conversation
import SlackBridge.Dialogue.Delivery
import SlackBridge.Dialogue.Failure
import SlackBridge.Dialogue.Message
import SlackBridge.Dialogue.Reply
import SlackBridge.Form
import SlackBridge.Http.Header
import SlackBridge.Http.Request
import SlackBridge.Json.Decimal
import SlackBridge.Json.Number
import SlackBridge.Json.Printer
import SlackBridge.Json.Record
import SlackBridge.Json.Token
import SlackBridge.Json.Tree
import SlackBridge.Json.Value
import SlackBridge.Log
import SlackBridge.Main
import SlackBridge.Proofs.BlankMessages
import SlackBridge.Proofs.BuildableCalls
import SlackBridge.Proofs.ButtonRoundTrip
import SlackBridge.Proofs.CallAttempts
import SlackBridge.Proofs.CharBytes
import SlackBridge.Proofs.ConversationContinuity
import SlackBridge.Proofs.ConversationKeys
import SlackBridge.Proofs.CustomPayloads
import SlackBridge.Proofs.DeliveryPlan
import SlackBridge.Proofs.DoctorVerdict
import SlackBridge.Proofs.DocumentFields
import SlackBridge.Proofs.EmptyIds
import SlackBridge.Proofs.EmptyReplies
import SlackBridge.Proofs.EventTable
import SlackBridge.Proofs.FormFields
import SlackBridge.Proofs.IgnoredReasons
import SlackBridge.Proofs.InteractionTable
import SlackBridge.Proofs.InterpolatedSecret
import SlackBridge.Proofs.JsonLexemes
import SlackBridge.Proofs.JsonNumerals
import SlackBridge.Proofs.JsonRecords
import SlackBridge.Proofs.JsonTokens
import SlackBridge.Proofs.JsonTrees
import SlackBridge.Proofs.ListedReasons
import SlackBridge.Proofs.Markup
import SlackBridge.Proofs.MarkupPasses
import SlackBridge.Proofs.MentionBlanks
import SlackBridge.Proofs.NewMembers
import SlackBridge.Proofs.OptionalTexts
import SlackBridge.Proofs.OwnSignature
import SlackBridge.Proofs.Recording
import SlackBridge.Proofs.Redaction
import SlackBridge.Proofs.References
import SlackBridge.Proofs.RegisteredUrl
import SlackBridge.Proofs.ReplyAddress
import SlackBridge.Proofs.ReplyRoundTrip
import SlackBridge.Proofs.SanitizedText
import SlackBridge.Proofs.SettingLayers
import SlackBridge.Proofs.SettingPlaces
import SlackBridge.Proofs.SettingSources
import SlackBridge.Proofs.Shutdown
import SlackBridge.Proofs.SignatureGate
import SlackBridge.Proofs.SignedText
import SlackBridge.Proofs.TextForms
import SlackBridge.Proofs.TextPosts
import SlackBridge.Proofs.TomlLines
import SlackBridge.Proofs.TomlPlaces
import SlackBridge.Proofs.TomlReaders
import SlackBridge.Proofs.TomlTexts
import SlackBridge.Proofs.Trimming
import SlackBridge.Proofs.Waits
import SlackBridge.Proofs.WebHosts
import SlackBridge.Proofs.WebhookRun
import SlackBridge.Server.App
import SlackBridge.Server.Route
import SlackBridge.Server.Shutdown
import SlackBridge.Server.Webhook
import SlackBridge.Settings.Basic
import SlackBridge.Settings.Check
import SlackBridge.Settings.Environment
import SlackBridge.Settings.File
import SlackBridge.Settings.Layer
import SlackBridge.Settings.Load
import SlackBridge.Settings.Problem
import SlackBridge.Slack.Backoff
import SlackBridge.Slack.Block
import SlackBridge.Slack.Event
import SlackBridge.Slack.Inbox
import SlackBridge.Slack.Interaction
import SlackBridge.Slack.Mention
import SlackBridge.Slack.Output
import SlackBridge.Slack.Post
import SlackBridge.Slack.Redelivery
import SlackBridge.Slack.Signature
import SlackBridge.Slack.WebApi
import SlackBridge.Text.Ascii
import SlackBridge.Text.Blank
import SlackBridge.Text.CharTable
import SlackBridge.Text.Hex
import SlackBridge.Text.Numeral
import SlackBridge.Text.Pieces
import SlackBridge.Text.Utf8
import SlackBridge.Toml.Document
import SlackBridge.Toml.Quoted
import SlackBridge.Toml.Scalar
import SlackBridge.Toml.Value
import SlackBridge.Url.Address
import SlackBridge.Url.Basic
import SlackBridge.Url.CombiningTable
import SlackBridge.Url.Composition
import SlackBridge.Url.Direction
import SlackBridge.Url.DirectionTable
import SlackBridge.Url.Domain
import SlackBridge.Url.DomainTable
import SlackBridge.Url.Joining
import SlackBridge.Url.JoiningTable
import SlackBridge.Url.Parse
import SlackBridge.Url.Percent
import SlackBridge.Url.Punycode
