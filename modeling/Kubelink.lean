import Kubelink.Net.Addr
import Kubelink.Net.Library
import Kubelink.Net.SubIP
import Kubelink.Policy.Ingress
import Kubelink.Registry.Link
import Kubelink.Policy.Firewall
import Kubelink.Registry.LinkFor
import Kubelink.Registry.Links
import Kubelink.Registry.Index
import Kubelink.Registry.Staging
import Kubelink.Tunnel.Frame
import Kubelink.Tunnel.Serve
import Kubelink.Registry.Query
import Kubelink.Policy.Ruleset
import Kubelink.Tunnel.Handshake
import Kubelink.Broker.Config
import Kubelink.Registry.Routes
import Kubelink.Tunnel.Net
import Kubelink.Registry.Declared
import Kubelink.Tunnel.Mesh
