import CitedReply.Bot.Startup
import CitedReply.Proofs.Citation.Cleaning
import CitedReply.Proofs.Citation.Settled
import CitedReply.Proofs.Citation.Wire
import CitedReply.Proofs.Frame.Display
import CitedReply.Proofs.Frame.Growth
import CitedReply.Proofs.Frame.Prompted
import CitedReply.Proofs.Session.Closing
import CitedReply.Proofs.Message
import CitedReply.Proofs.Session.Calls
import CitedReply.Proofs.Session.Contents
import CitedReply.Proofs.Link.Reading
import CitedReply.Proofs.Frame.Sources
import CitedReply.Proofs.Session.Pace
import CitedReply.Proofs.Session.Refusals
import CitedReply.Proofs.Preview
import CitedReply.Proofs.Administration
import CitedReply.Proofs.Link.Writing
import CitedReply.Proofs.Marker.Rewriting
import CitedReply.Proofs.Link.Annotating
import CitedReply.Proofs.Citation.Grammar
import CitedReply.Proofs.Citation.Distinct
import CitedReply.Proofs.Link.Rereading
import CitedReply.Proofs.Splitting
import CitedReply.Proofs.Marker.Places
import CitedReply.Proofs.Link.Grammar
import CitedReply.Proofs.Link.Leftmost
