/-!
This module contains the explorer page: a self-contained document that draws a composition graph.
Three placeholders stand for what depends on the graph.
-/

namespace FixtureLab
namespace Graph
namespace Page

def recordsHole : String := "\x7b\x7bGRAPH_JSON\x7d\x7d"

def nodesHole : String := "\x7b\x7bNODES_COUNT\x7d\x7d"

def edgesHole : String := "\x7b\x7bEDGES_COUNT\x7d\x7d"

def lines : List String := [
  "<!doctype html>",
  "<html lang=\"en\">",
  "<head>",
  "<meta charset=\"utf-8\">",
  "<title>forcedata: fixture graph</title>",
  "<style>",
  "  html, body \x7b margin: 0; height: 100%; font-family: Helvetica, Arial, sans-serif; background: #fafafa; \x7d",
  "  header \x7b padding: 8px 12px; border-bottom: 1px solid #ddd; background: #fff; display: flex; gap: 16px; align-items: center; \x7d",
  "  header h1 \x7b font-size: 15px; margin: 0; \x7d",
  "  header .meta \x7b color: #666; font-size: 13px; \x7d",
  "  .legend span \x7b margin-right: 12px; font-size: 13px; \x7d",
  "  .legend i \x7b display: inline-block; width: 18px; height: 0; vertical-align: middle; margin-right: 4px; \x7d",
  "  #graph \x7b display: block; width: 100%; height: calc(100% - 42px); cursor: grab; \x7d",
  "  #detail \x7b position: absolute; right: 12px; top: 54px; background: #fff; border: 1px solid #ddd;",
  "            padding: 8px 10px; font-size: 13px; max-width: 320px; display: none; white-space: pre-wrap; \x7d",
  "</style>",
  "</head>",
  "<body>",
  "<header>",
  "  <h1>Fixture graph</h1>",
  "  <span class=\"meta\">\x7b\x7bNODES_COUNT\x7d\x7d fixtures, \x7b\x7bEDGES_COUNT\x7d\x7d edges</span>",
  "  <span class=\"legend\">",
  "    <span><i style=\"border-top: 2px solid #4a7ab8\"></i>contains</span>",
  "    <span><i style=\"border-top: 2px dashed #c0504d\"></i>inherits from</span>",
  "  </span>",
  "</header>",
  "<canvas id=\"graph\"></canvas>",
  "<div id=\"detail\"></div>",
  "<script>",
  "var forceData = \x7b\x7bGRAPH_JSON\x7d\x7d;",
  "",
  "(function () \x7b",
  "  var canvas = document.getElementById(\"graph\");",
  "  var detail = document.getElementById(\"detail\");",
  "  var ctx = canvas.getContext(\"2d\");",
  "",
  "  var byId = \x7b\x7d;",
  "  var nodes = forceData.map(function (r, i) \x7b",
  "    var angle = (2 * Math.PI * i) / Math.max(forceData.length, 1);",
  "    var n = \x7b id: r.dataId, record: r, x: Math.cos(angle) * 200, y: Math.sin(angle) * 200, vx: 0, vy: 0 \x7d;",
  "    byId[r.dataId] = n;",
  "    return n;",
  "  \x7d);",
  "",
  "  var links = [];",
  "  forceData.forEach(function (r) \x7b",
  "    if (r.inheritDataId && byId[r.inheritDataId]) \x7b",
  "      links.push(\x7b source: byId[r.dataId], target: byId[r.inheritDataId], kind: \"inherit\" \x7d);",
  "    \x7d",
  "    (r.properties || []).forEach(function (child) \x7b",
  "      if (byId[child]) \x7b",
  "        links.push(\x7b source: byId[r.dataId], target: byId[child], kind: \"contain\" \x7d);",
  "      \x7d",
  "    \x7d);",
  "  \x7d);",
  "",
  "  var view = \x7b x: 0, y: 0, scale: 1 \x7d;",
  "  var dragging = null, panning = null;",
  "",
  "  function resize() \x7b",
  "    canvas.width = canvas.clientWidth;",
  "    canvas.height = canvas.clientHeight;",
  "  \x7d",
  "",
  "  function step() \x7b",
  "    var i, j, a, b, dx, dy, d2, d, f;",
  "    for (i = 0; i < nodes.length; i++) \x7b",
  "      for (j = i + 1; j < nodes.length; j++) \x7b",
  "        a = nodes[i]; b = nodes[j];",
  "        dx = a.x - b.x; dy = a.y - b.y;",
  "        d2 = dx * dx + dy * dy + 0.01;",
  "        f = 4000 / d2;",
  "        a.vx += dx * f / Math.sqrt(d2); a.vy += dy * f / Math.sqrt(d2);",
  "        b.vx -= dx * f / Math.sqrt(d2); b.vy -= dy * f / Math.sqrt(d2);",
  "      \x7d",
  "    \x7d",
  "    links.forEach(function (l) \x7b",
  "      dx = l.target.x - l.source.x; dy = l.target.y - l.source.y;",
  "      d = Math.sqrt(dx * dx + dy * dy) + 0.01;",
  "      f = (d - (l.kind === \"inherit\" ? 140 : 90)) * 0.02;",
  "      l.source.vx += dx / d * f; l.source.vy += dy / d * f;",
  "      l.target.vx -= dx / d * f; l.target.vy -= dy / d * f;",
  "    \x7d);",
  "    nodes.forEach(function (n) \x7b",
  "      n.vx -= n.x * 0.002; n.vy -= n.y * 0.002;",
  "      if (n !== dragging) \x7b n.x += n.vx; n.y += n.vy; \x7d",
  "      n.vx *= 0.85; n.vy *= 0.85;",
  "    \x7d);",
  "  \x7d",
  "",
  "  function arrow(x1, y1, x2, y2) \x7b",
  "    var angle = Math.atan2(y2 - y1, x2 - x1);",
  "    var tx = x2 - Math.cos(angle) * 9, ty = y2 - Math.sin(angle) * 9;",
  "    ctx.beginPath();",
  "    ctx.moveTo(tx, ty);",
  "    ctx.lineTo(tx - Math.cos(angle - 0.4) * 8, ty - Math.sin(angle - 0.4) * 8);",
  "    ctx.lineTo(tx - Math.cos(angle + 0.4) * 8, ty - Math.sin(angle + 0.4) * 8);",
  "    ctx.closePath();",
  "    ctx.fill();",
  "  \x7d",
  "",
  "  function draw() \x7b",
  "    ctx.setTransform(1, 0, 0, 1, 0, 0);",
  "    ctx.clearRect(0, 0, canvas.width, canvas.height);",
  "    ctx.setTransform(view.scale, 0, 0, view.scale,",
  "      canvas.width / 2 + view.x, canvas.height / 2 + view.y);",
  "",
  "    links.forEach(function (l) \x7b",
  "      var inherit = l.kind === \"inherit\";",
  "      ctx.strokeStyle = ctx.fillStyle = inherit ? \"#c0504d\" : \"#4a7ab8\";",
  "      ctx.lineWidth = 1.5;",
  "      ctx.setLineDash(inherit ? [6, 4] : []);",
  "      ctx.beginPath();",
  "      ctx.moveTo(l.source.x, l.source.y);",
  "      ctx.lineTo(l.target.x, l.target.y);",
  "      ctx.stroke();",
  "      ctx.setLineDash([]);",
  "      arrow(l.source.x, l.source.y, l.target.x, l.target.y);",
  "    \x7d);",
  "",
  "    ctx.font = \"12px Helvetica, Arial, sans-serif\";",
  "    nodes.forEach(function (n) \x7b",
  "      ctx.fillStyle = n.record.inheritDataId ? \"#f2dcdb\" : \"#dce6f2\";",
  "      ctx.strokeStyle = \"#555\";",
  "      ctx.beginPath();",
  "      ctx.arc(n.x, n.y, 7, 0, 2 * Math.PI);",
  "      ctx.fill();",
  "      ctx.stroke();",
  "      ctx.fillStyle = \"#222\";",
  "      ctx.fillText(n.id, n.x + 10, n.y + 4);",
  "    \x7d);",
  "  \x7d",
  "",
  "  function toWorld(ev) \x7b",
  "    var rect = canvas.getBoundingClientRect();",
  "    return \x7b",
  "      x: (ev.clientX - rect.left - canvas.width / 2 - view.x) / view.scale,",
  "      y: (ev.clientY - rect.top - canvas.height / 2 - view.y) / view.scale",
  "    \x7d;",
  "  \x7d",
  "",
  "  function hit(p) \x7b",
  "    for (var i = nodes.length - 1; i >= 0; i--) \x7b",
  "      var dx = nodes[i].x - p.x, dy = nodes[i].y - p.y;",
  "      if (dx * dx + dy * dy < 100) \x7b return nodes[i]; \x7d",
  "    \x7d",
  "    return null;",
  "  \x7d",
  "",
  "  function show(n) \x7b",
  "    if (!n) \x7b detail.style.display = \"none\"; return; \x7d",
  "    var r = n.record;",
  "    detail.textContent = r.dataId +",
  "      \"\\ninherits from: \" + (r.inheritDataId || \"-\") +",
  "      \"\\ncontains: \" + ((r.properties || []).join(\", \") || \"-\");",
  "    detail.style.display = \"block\";",
  "  \x7d",
  "",
  "  canvas.addEventListener(\"mousedown\", function (ev) \x7b",
  "    var p = toWorld(ev);",
  "    dragging = hit(p);",
  "    show(dragging);",
  "    if (!dragging) \x7b panning = \x7b x: ev.clientX - view.x, y: ev.clientY - view.y \x7d; \x7d",
  "  \x7d);",
  "  window.addEventListener(\"mousemove\", function (ev) \x7b",
  "    if (dragging) \x7b var p = toWorld(ev); dragging.x = p.x; dragging.y = p.y; \x7d",
  "    else if (panning) \x7b view.x = ev.clientX - panning.x; view.y = ev.clientY - panning.y; \x7d",
  "  \x7d);",
  "  window.addEventListener(\"mouseup\", function () \x7b dragging = null; panning = null; \x7d);",
  "  canvas.addEventListener(\"wheel\", function (ev) \x7b",
  "    ev.preventDefault();",
  "    view.scale = Math.min(4, Math.max(0.2, view.scale * (ev.deltaY < 0 ? 1.1 : 0.9)));",
  "  \x7d, \x7b passive: false \x7d);",
  "  window.addEventListener(\"resize\", resize);",
  "",
  "  resize();",
  "  (function loop() \x7b step(); draw(); requestAnimationFrame(loop); \x7d)();",
  "\x7d)();",
  "</script>",
  "</body>",
  "</html>"
]

def template : List Char := lines.flatMap fun line => line.toList ++ ['\n']

end Page
end Graph
end FixtureLab
